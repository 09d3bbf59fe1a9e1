import Mathlib.Data.List.Find
import StandbyStream.Engine.Recorder
import StandbyStream.Proofs.Topology.Assembly

/-!
# Graphs and the factories of an engine

Three things have to fit together: what a build puts into a graph, what the check of a graph asks
for, and which factories the simulator knows. They do. A build makes a graph of every request whose
sizes and address will do, and of what such a graph needs the simulator lacks only what it pretends
to lack (`Topology.firstMissing?_of_build`). So the check for factories and the attempt to make the
pipeline fail for the same graphs and at the same stage, and the attempt leaves no trace
(`Topology.factories_of_build`). A simulator that pretends to lack nothing, and a recorder without
faults, make the pipeline of every built graph (`MakesAll`).
-/

namespace StandbyStream

/-! ## The search for a factory -/

variable {hasFactory : String → Bool} {stages : List Stage} {stage : Stage}

theorem firstMissing?_eq_none :
    firstMissing? hasFactory stages = none ↔ ∀ stage ∈ stages, hasFactory stage.factory = true := by
  simp [firstMissing?, List.find?_eq_none]

/-- The search for a stage that an engine cannot make ends at the first one. -/
theorem firstMissing?_eq_some :
    firstMissing? hasFactory stages = some stage ↔
      hasFactory stage.factory = false ∧
        ∃ before after, stages = before ++ stage :: after ∧
          ∀ other ∈ before, hasFactory other.factory = true := by
  simp [firstMissing?, List.find?_eq_some_iff_append]

section

variable {ρ π : Type} [MediaEngine ρ π] {engine : ρ} {t : Topology}

theorem checkFactories_of_missing
    (h : firstMissing? (MediaEngine.hasFactory engine) t.stages = some stage) :
    checkFactories engine t =
      .error ⟨MediaEngine.name engine, stage.factory, stage.name⟩ := by
  rw [checkFactories, h]

theorem checkFactories_eq_ok :
    checkFactories engine t = .ok () ↔
      firstMissing? (MediaEngine.hasFactory engine) t.stages = none := by
  cases h : firstMissing? (MediaEngine.hasFactory engine) t.stages with
  | none => simp [checkFactories, h]
  | some stage => simp [checkFactories_of_missing h]

end

namespace Simulator

variable {sim : Simulator} {t : Topology}

/-- A simulator that cannot make a pipeline is as it was. -/
theorem instantiate_of_missing (h : firstMissing? sim.hasFactory t.stages = some stage) :
    sim.instantiate t =
      (.error ⟨"no element factory '" ++ stage.factory ++ "' for stage '" ++ stage.name ++ "'"⟩,
        sim) := by
  rw [instantiate, h]

/-- The pipeline that a simulator has just made is counted and gets the events from outside. -/
theorem inject_instantiate {sim' : Simulator} {pipeline : SimPipeline}
    (h : sim.instantiate t = (.ok pipeline, sim')) :
    sim'.instantiations = sim.instantiations + 1 ∧
      ∀ listened event, sim'.inject listened event =
        if listened sim.instantiations then some (sim.instantiations, event) else none := by
  rw [instantiate] at h
  split at h
  · cases h
  · cases h
    refine ⟨rfl, fun listened event => ?_⟩
    cases hl : listened sim.instantiations <;> simp [inject, hl]

/-- The simulator makes a pipeline exactly if it has every factory. -/
theorem exists_instantiate :
    (∃ pipeline sim', sim.instantiate t = (.ok pipeline, sim')) ↔
      firstMissing? sim.hasFactory t.stages = none := by
  cases h : firstMissing? sim.hasFactory t.stages with
  | none => simp [instantiate, h]
  | some stage => simp [instantiate_of_missing h]

end Simulator

/-! ## Built graphs -/

namespace Topology

variable {request : BuildRequest} {t : Topology}

/-- Of what a built graph needs, the simulator lacks only what it pretends to lack. -/
theorem firstMissing?_of_build (h : build request = .ok t) (sim : Simulator) :
    firstMissing? sim.hasFactory t.stages =
      firstMissing? (fun factory => !sim.missing.contains factory) t.stages := by
  obtain ⟨destination, -, rfl⟩ := eq_assemble_of_build h
  -- the factories of an assembled graph are all known, so that the table of them drops out
  refine List.find?_congr fun stage hm => ?_
  have known := factory_mem_assemble request destination hm
  simp [Simulator.hasFactory, known]

/-- No build fails for what it has made. -/
theorem build_ne_unsound (request : BuildRequest) (defect : Defect) :
    build request ≠ .error (.unsound defect) := by
  intro h
  rw [build.eq_def] at h
  split at h
  · cases h
  split at h
  · cases h
  split at h
  · cases h
  next destination _ =>
    simp only [check_assemble] at h
    cases h

/-- The stage is the first that needs a factory which the simulator pretends to lack. -/
def FirstLacking (t : Topology) (sim : Simulator) (stage : Stage) : Prop :=
  stage.factory ∈ sim.missing ∧
    ∃ before after, t.stages = before ++ stage :: after ∧
      ∀ other ∈ before, other.factory ∉ sim.missing

/-- A build succeeds exactly if the sizes and the rate are not zero and the address is a
destination; its own check rejects nothing that it has made. With a built graph the check for
factories passes and the simulator makes a pipeline exactly if no stage needs a factory that the
simulator pretends to lack. A pipeline that is made is counted and gets the events from outside.
Otherwise both name the first such stage, and the simulator is left as it was: the count, the input
on air, the marks, and where events from outside go. -/
theorem factories_of_build :
    (∀ request, (∃ t, build request = .ok t) ↔
      (request.width ≠ 0 ∧ request.height ≠ 0 ∧ request.fps ≠ 0) ∧
        ∃ destination, Destination.parse request.address = .ok destination) ∧
    (∀ request defect, build request ≠ .error (.unsound defect)) ∧
    ∀ request t, build request = .ok t → ∀ sim : Simulator,
      (checkFactories sim t = .ok () ↔ ∀ stage ∈ t.stages, stage.factory ∉ sim.missing) ∧
      ((∃ pipeline sim', MediaEngine.instantiate t sim = (.ok pipeline, sim')) ↔
        ∀ stage ∈ t.stages, stage.factory ∉ sim.missing) ∧
      (∀ pipeline sim', MediaEngine.instantiate t sim = (.ok pipeline, sim') →
        sim'.instantiations = sim.instantiations + 1 ∧
        ∀ listened event, sim'.inject listened event =
          if listened sim.instantiations then some (sim.instantiations, event) else none) ∧
      ((∃ stage ∈ t.stages, stage.factory ∈ sim.missing) →
        ∃ stage, t.FirstLacking sim stage ∧
          checkFactories sim t = .error ⟨"simulated", stage.factory, stage.name⟩ ∧
          MediaEngine.instantiate t sim =
            (.error ⟨"no element factory '" ++ stage.factory ++ "' for stage '" ++ stage.name ++
              "'"⟩, sim)) := by
  refine ⟨?_, build_ne_unsound, ?_⟩
  · intro request
    constructor
    · rintro ⟨t, h⟩
      obtain ⟨hsizes, destination, hd, -⟩ := build_eq_ok.1 h
      exact ⟨hsizes, destination, hd⟩
    · rintro ⟨hsizes, destination, hd⟩
      exact ⟨_, build_eq_ok.2 ⟨hsizes, destination, hd, rfl⟩⟩
  intro request t h sim
  -- the check and the attempt make the same search, which comes down to the missing factories
  have search := firstMissing?_of_build h sim
  have complete : firstMissing? sim.hasFactory t.stages = none ↔
      ∀ stage ∈ t.stages, stage.factory ∉ sim.missing := by
    rw [search, firstMissing?_eq_none]
    simp
  refine ⟨checkFactories_eq_ok.trans complete, Simulator.exists_instantiate.trans complete,
    fun _ _ => Simulator.inject_instantiate, ?_⟩
  rintro ⟨lacking, hm, hlacking⟩
  cases found : firstMissing? sim.hasFactory t.stages with
  | none => exact absurd hlacking (complete.1 found lacking hm)
  | some stage =>
      refine ⟨stage, ?_, checkFactories_of_missing found, Simulator.instantiate_of_missing found⟩
      rw [search, firstMissing?_eq_some] at found
      simpa [FirstLacking] using found

/-- A simulator makes a pipeline and then lacks two factories: the check and the attempt both name
the stage that comes first, and events from outside still go to the pipeline that was made. -/
theorem factories_of_build_unpaid :
    let request : BuildRequest := ⟨.live, .h264, 640, 480, 25, 1000, "udp://h:1", true⟩
    let t := assemble request (.udp "h" 1)
    let made : Simulator := (MediaEngine.instantiate t Simulator.flawless).2
    let sim := { made with missing := ["udpsink", "rtph264pay"] }
    build request = .ok t ∧ checkFactories Simulator.flawless t = .ok () ∧
      made.inject (· == 0) .endOfStream = some (0, .endOfStream) ∧
      ∃ stage, t.FirstLacking sim stage ∧
        checkFactories sim t = .error ⟨"simulated", stage.factory, stage.name⟩ ∧
        MediaEngine.instantiate t sim =
          (.error ⟨"no element factory '" ++ stage.factory ++ "' for stage '" ++ stage.name ++
            "'"⟩, sim) ∧
        (MediaEngine.instantiate t sim).2.inject (· == 0) .endOfStream =
          some (0, .endOfStream) := by
  intro request t made sim
  have ht : build request = .ok t :=
    build_eq_ok.2 ⟨by decide, .udp "h" 1, by decide +kernel, rfl⟩
  have lacking : ∃ stage ∈ t.stages, stage.factory ∈ sim.missing := by decide +kernel
  have law := factories_of_build.2.2 request t ht
  obtain ⟨hcheck, hmakes, hmade, -⟩ := law .flawless
  have complete : ∀ stage ∈ t.stages, stage.factory ∉ Simulator.flawless.missing := by
    decide +kernel
  obtain ⟨pipeline, sim', hi⟩ := hmakes.2 complete
  have hsent : made.inject (· == 0) .endOfStream = some (0, .endOfStream) := by
    have hmade' : made = sim' := congrArg Prod.snd hi
    rw [hmade', (hmade pipeline sim' hi).2]
    rfl
  obtain ⟨stage, hfirst, hchecked, hfailed⟩ := (law sim).2.2.2 lacking
  refine ⟨ht, hcheck.2 complete, hsent, stage, hfirst, hchecked, hfailed, ?_⟩
  rw [hfailed]
  exact hsent

end Topology

/-! ## Engines that make every pipeline -/

/-- The engine makes a pipeline of every graph that a build makes. -/
def MakesAll {ρ π : Type} [MediaEngine ρ π] (engine : ρ) : Prop :=
  ∀ request t, Topology.build request = .ok t →
    checkFactories engine t = .ok () ∧
      ∃ pipeline engine', MediaEngine.instantiate t engine = (.ok pipeline, engine')

/-- A simulator that pretends to lack nothing makes all pipelines. -/
theorem Simulator.makesAll {sim : Simulator} (h : sim.missing = []) : MakesAll sim := by
  intro request t ht
  have complete : firstMissing? sim.hasFactory t.stages = none := by
    rw [Topology.firstMissing?_of_build ht, h, firstMissing?_eq_none]
    simp
  exact ⟨checkFactories_eq_ok.2 complete, exists_instantiate.2 complete⟩

/-- So does a recorder without faults. -/
theorem Recorder.makesAll {recorder : Recorder} (h : recorder.faults = .none) :
    MakesAll recorder := by
  obtain ⟨faults, log, pipelines⟩ := recorder
  cases h
  intro request t _
  refine ⟨checkFactories_eq_ok.2 (firstMissing?_eq_none.2 ?_), _, _, rfl⟩
  intro stage _
  rfl

end StandbyStream
