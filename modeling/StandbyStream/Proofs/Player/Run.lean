import StandbyStream.Player
import StandbyStream.Proofs.Player.Steps

/-!
# Actions on a player

What can be done to a player is an `Action`. The operations are taken apart here once: a build ends
in one of the three ways of `BuildEnd`, a start begins a loop or refuses, and whatever reaches the
loop of a started pipeline runs it to rest by steps (`settle_of_running`, `loop_withLoop`). How far
the pipeline at hand has come is the `stage` of the player, which frames, events and a loop that
runs to rest do not change.
-/

namespace StandbyStream.Player

variable {ρ π : Type}

/-! ## Held pipelines and their loops -/

theorem isStarted_of_held_none {p : Player ρ π} (h : p.held = none) : p.isStarted = false := by
  simp [isStarted, h]

theorem isStarted_of_unstarted {p : Player ρ π} {held : Held π} (hh : p.held = some held)
    (hr : held.running = none) : p.isStarted = false := by
  simp [isStarted, hh, hr]

theorem isStarted_of_running {p : Player ρ π} {held : Held π} {running : Running}
    (hh : p.held = some held) (hr : held.running = some running) : p.isStarted = true := by
  simp [isStarted, hh, hr]

/-- The pipeline that a player holds once its loop has come to `l`. -/
def heldAt (held : Held π) (l : Loop ρ π) : Held π :=
  { held with
    pipeline := l.deck.rig.pipeline
    pending := l.pending
    running := some ⟨l.feed, l.phase⟩ }

theorem held_withLoop (p : Player ρ π) (held : Held π) (l : Loop ρ π) :
    (p.withLoop held l).held = some (heldAt held l) := rfl

/-- A loop that has been put back is found again. -/
theorem loop_withLoop {p : Player ρ π} {held : Held π} {l : Loop ρ π}
    (hp : l.patience = p.patience) (hq : l.quit = p.quit) :
    (p.withLoop held l).loop (heldAt held l) ⟨l.feed, l.phase⟩ = l := by
  obtain ⟨patience, deck, state, feed, pending, phase, quit⟩ := l
  subst hp hq
  rfl

/-! ## Actions -/

/-- What can be done to a player. -/
inductive Action (ρ : Type) where
  | build (request : BuildRequest)
  | start
  | stop
  | submit (frame : Frame)
  | post (event : Event)
  /-- The engine is changed from outside: its faults come and go. -/
  | alter (change : ρ → ρ)

variable [MediaEngine ρ π]

/-- The engine is changed from outside. -/
def alter (p : Player ρ π) (change : ρ → ρ) : Player ρ π :=
  ({ p with engine := change p.engine }).settle

/-- The player after an action. -/
def act (p : Player ρ π) : Action ρ → Player ρ π
  | .build request => (p.build request).2
  | .start => p.start.2
  | .stop => p.stop
  | .submit frame => p.submit frame
  | .post event => (p.post event).2
  | .alter change => p.alter change

/-! ## Builds -/

/-- The player once a build has made a pipeline. -/
def afterBuild (p : Player ρ π) (t : Topology) (pipeline : π) (engine : ρ) : Player ρ π :=
  { p with
    engine
    queue := p.queue.reset
    status := .afterBuild (t.mode = .fallbackOnly)
    state := .built
    held := some ⟨t, pipeline, [], none⟩
    quit := false }

/-- How a build ends. -/
inductive BuildEnd (p : Player ρ π) (request : BuildRequest) :
    Except BuildFault Unit × Player ρ π → Prop
  /-- A pipeline is started: nothing happens. -/
  | refused (h : p.isStarted = true ∨ p.state = .playing) :
      BuildEnd p request (.error .playing, p)
  /-- An unstarted pipeline is given up and no other is made; all that the engine may have seen
  is an attempt to make one. -/
  | failed {cause : BuildFault} {engine : ρ} (free : p.isStarted = false)
      (other : cause ≠ .playing)
      (h : engine = p.engine ∨
        ∃ t fault, MediaEngine.instantiate t p.engine = (.error fault, engine)) :
      BuildEnd p request (.error cause, { p with held := none, engine })
  /-- A pipeline is made. -/
  | built {t : Topology} {pipeline : π} {engine : ρ} (free : p.isStarted = false)
      (ht : Topology.build request = .ok t)
      (h : MediaEngine.instantiate t p.engine = (.ok pipeline, engine)) :
      BuildEnd p request (.ok (), p.afterBuild t pipeline engine)

theorem build_end (p : Player ρ π) (request : BuildRequest) :
    BuildEnd p request (p.build request) := by
  rw [build.eq_def]
  split
  · next h => exact .refused h
  next h =>
    have free : p.isStarted = false := by
      cases hs : p.isStarted with
      | false => rfl
      | true => exact absurd (Or.inl hs) h
    simp only
    cases ht : Topology.build request with
    | error cause => exact .failed free nofun (Or.inl rfl)
    | ok t =>
        simp only
        cases checkFactories p.engine t with
        | error cause => exact .failed free nofun (Or.inl rfl)
        | ok _ =>
            simp only
            split
            · next fault engine hi => exact .failed free nofun (Or.inr ⟨t, fault, hi⟩)
            · next pipeline engine hi => exact .built free ht hi

/-- A player whose pipeline is not started builds a graph that its engine can make. -/
theorem build_of_instantiate {p : Player ρ π} {request : BuildRequest} {t : Topology} {pipeline : π}
    {engine : ρ} (free : p.isStarted = false) (quiet : p.state ≠ .playing)
    (ht : Topology.build request = .ok t) (hf : checkFactories p.engine t = .ok ())
    (hi : MediaEngine.instantiate t p.engine = (.ok pipeline, engine)) :
    p.build request = (.ok (), p.afterBuild t pipeline engine) := by
  have idle : ¬ (p.isStarted = true ∨ p.state = .playing) := by simp [free, quiet]
  rw [build.eq_def, if_neg idle, ht]
  simp only [hf, hi]
  rfl

/-! ## Starts and stops -/

theorem start_of_held_none {p : Player ρ π} (h : p.held = none) :
    p.start = (.error .nothingBuilt, p) := by
  rw [start.eq_def, h]

theorem start_of_running {p : Player ρ π} {held : Held π} {running : Running}
    (hh : p.held = some held) (hr : held.running = some running) :
    p.start = (.error .running, p) := by
  rw [start.eq_def, hh]
  simp only [hr]

/-- The loop of a pipeline before it has been told to play. -/
def unbegun (p : Player ρ π) (held : Held π) : Loop ρ π :=
  p.loop held ⟨.ofMode held.topology.mode, .listening⟩

/-- The loop with which a start begins. -/
def firstLoop (p : Player ρ π) (held : Held π) : Loop ρ π :=
  (p.unbegun held).begin

theorem firstLoop_frame (p : Player ρ π) (held : Held π) :
    (p.firstLoop held).patience = p.patience ∧ (p.firstLoop held).quit = p.quit ∧
      (p.firstLoop held).feed = .ofMode held.topology.mode ∧
      (p.firstLoop held).deck.queue = p.queue :=
  Loop.begin_frame _

theorem start_of_unstarted {p : Player ρ π} {held : Held π} (hh : p.held = some held)
    (hr : held.running = none) :
    p.start = (.ok (), (p.withLoop held (p.firstLoop held)).settle) := by
  rw [start.eq_def, hh]
  simp only [hr]
  rfl

/-- How a start ends. -/
inductive StartEnd (p : Player ρ π) : Except StartFault Unit × Player ρ π → Prop
  /-- There is no pipeline to start: nothing happens. -/
  | refused (cause : StartFault) : StartEnd p (.error cause, p)
  /-- The loop of the held pipeline begins and runs to rest. -/
  | begun {held : Held π} (hh : p.held = some held) (hr : held.running = none) :
      StartEnd p (.ok (), (p.withLoop held (p.firstLoop held)).settle)

theorem start_end (p : Player ρ π) : StartEnd p p.start := by
  cases hh : p.held with
  | none =>
      rw [start_of_held_none hh]
      exact .refused _
  | some held =>
      cases hr : held.running with
      | none =>
          rw [start_of_unstarted hh hr]
          exact .begun hh hr
      | some running =>
          rw [start_of_running hh hr]
          exact .refused _

theorem stop_of_held_none {p : Player ρ π} (h : p.held = none) :
    p.stop =
      { p with
        status := { p.status with playing := false }
        state := if p.state = .unbuilt then .unbuilt else .stopped } := by
  rw [stop.eq_def, h]

/-- The player that has taken its pipeline down and told the loop to quit. -/
def askedToQuit (p : Player ρ π) (held : Held π) : Player ρ π :=
  (({ p with state := .stopping } : Player ρ π).takeDown held).askToQuit

/-- The player whose pipeline has been taken down and whose loop has run out. -/
def runOut (p : Player ρ π) (held : Held π) : Player ρ π :=
  (({ p with state := .stopping } : Player ρ π).takeDown held).askToQuit.settle

theorem runOut_eq (p : Player ρ π) (held : Held π) :
    p.runOut held = (p.askedToQuit held).settle := rfl

theorem stop_of_held {p : Player ρ π} {held : Held π} (hh : p.held = some held) :
    p.stop =
      { p.runOut held with
        status := { (p.runOut held).status with playing := false }
        state := .stopped
        held := none } := by
  rw [stop.eq_def]
  split
  · next h => rw [hh] at h; cases h
  · next held' h =>
      rw [hh] at h
      cases h
      rfl

/-! ## The loop of a started pipeline -/

theorem settle_of_held_none {p : Player ρ π} (h : p.held = none) : p.settle = p := by
  rw [settle.eq_def, h]

theorem submit_of_held_none {p : Player ρ π} (h : p.held = none) (frame : Frame) :
    p.submit frame = { p with queue := (p.queue.push frame).2 } :=
  settle_of_held_none h

theorem alter_of_held_none {p : Player ρ π} (h : p.held = none) (change : ρ → ρ) :
    p.alter change = { p with engine := change p.engine } :=
  settle_of_held_none h

theorem post_of_held_none {p : Player ρ π} (h : p.held = none) (event : Event) :
    p.post event = (false, p) := by
  rw [post.eq_def, h]

theorem settle_of_unstarted {p : Player ρ π} {held : Held π} (hh : p.held = some held)
    (hr : held.running = none) : p.settle = p := by
  rw [settle.eq_def, hh]
  simp only [hr]

theorem settle_of_running {p : Player ρ π} {held : Held π} {running : Running}
    (hh : p.held = some held) (hr : held.running = some running) :
    p.settle = p.withLoop held (p.loop held running).settle := by
  rw [settle.eq_def, hh]
  simp only [hr]

/-- Without a loop there is nothing to run to rest. -/
theorem settle_cases (p : Player ρ π) :
    p.settle = p ∨ ∃ held running, p.held = some held ∧ held.running = some running := by
  cases hh : p.held with
  | none => exact .inl (settle_of_held_none hh)
  | some held =>
      cases hr : held.running with
      | none => exact .inl (settle_of_unstarted hh hr)
      | some running => exact .inr ⟨held, running, rfl, hr⟩

/-- What every step preserves holds of the loop that a settled player has. -/
theorem settle_loop {C : Loop ρ π → Prop} (step : ∀ {l l'}, Loop.Step l l' → C l → C l')
    {p : Player ρ π} {held : Held π} {running : Running} (hh : p.held = some held)
    (hr : held.running = some running) (h : C (p.loop held running)) :
    ∃ held' running', p.settle.held = some held' ∧ held'.running = some running' ∧
      held'.topology = held.topology ∧ C (p.settle.loop held' running') := by
  obtain ⟨hp, hq, -⟩ := (Loop.settle_steps (p.loop held running)).frame
  rw [settle_of_running hh hr]
  refine ⟨_, _, held_withLoop .., rfl, rfl, ?_⟩
  rw [loop_withLoop hp hq]
  exact Loop.settle_induction step h

/-! ## Stages -/

/-- Whether a pipeline is held and, if so, whether it has been started. -/
def stage (p : Player ρ π) : Option Bool :=
  p.held.map (·.running.isSome)

/-- A loop has been started and has not ended. -/
def loopRuns (p : Player ρ π) : Bool :=
  p.held.any fun held => held.running.any (·.phase != .ended)

omit [MediaEngine ρ π] in
theorem exists_of_isStarted {p : Player ρ π} (h : p.isStarted = true) :
    ∃ held running, p.held = some held ∧ held.running = some running := by
  obtain ⟨held, hh, hr⟩ := (Option.any_eq_true _ _).1 h
  obtain ⟨running, hr⟩ := Option.isSome_iff_exists.1 hr
  exact ⟨held, running, hh, hr⟩

omit [MediaEngine ρ π] in
theorem exists_of_loopEnded {p : Player ρ π} (h : p.loopEnded = true) :
    ∃ held running, p.held = some held ∧ held.running = some running ∧
      running.phase = .ended := by
  obtain ⟨held, hh, hended⟩ := (Option.any_eq_true _ _).1 h
  obtain ⟨running, hr, hended⟩ := (Option.any_eq_true _ _).1 hended
  exact ⟨held, running, hh, hr, eq_of_beq hended⟩

omit [MediaEngine ρ π] in
theorem loopEnded_of_not_started {p : Player ρ π} (h : p.isStarted = false) :
    p.loopEnded = false := by
  cases hended : p.loopEnded with
  | false => rfl
  | true =>
      obtain ⟨held, running, hh, hr, -⟩ := exists_of_loopEnded hended
      rw [isStarted_of_running hh hr] at h
      cases h

omit [MediaEngine ρ π] in
theorem isStarted_of_stage {p : Player ρ π} (h : p.stage = some true) : p.isStarted = true := by
  obtain ⟨held, hh, hr⟩ := Option.map_eq_some_iff.1 h
  simp [isStarted, hh, hr]

omit [MediaEngine ρ π] in
theorem held_of_stage {p : Player ρ π} (h : p.stage = none) : p.held = none :=
  Option.map_eq_none_iff.1 h

omit [MediaEngine ρ π] in
/-- A started pipeline whose loop does not run is one whose loop has ended. -/
theorem loopEnded_of_stage {p : Player ρ π} (hs : p.stage = some true)
    (h : p.loopRuns = false) : p.loopEnded = true := by
  obtain ⟨held, hh, hr⟩ := Option.map_eq_some_iff.1 hs
  obtain ⟨running, hr⟩ := Option.isSome_iff_exists.1 hr
  rw [loopRuns, hh, Option.any_some, hr, Option.any_some] at h
  rw [loopEnded, hh, Option.any_some, hr, Option.any_some]
  simpa using h

omit [MediaEngine ρ π] in
/-- Without a pipeline no loop has ended. -/
theorem loopEnded_of_held_none {p : Player ρ π} (h : p.held = none) : p.loopEnded = false := by
  rw [loopEnded, h, Option.any_none]

theorem stage_settle (p : Player ρ π) : p.settle.stage = p.stage := by
  rcases p.settle_cases with hs | ⟨held, running, hh, hr⟩
  · rw [hs]
  · rw [settle_of_running hh hr, stage, stage, held_withLoop, hh]
    simp [heldAt, hr]

theorem stage_submit (p : Player ρ π) (frame : Frame) : (p.submit frame).stage = p.stage :=
  stage_settle _

theorem stage_alter (p : Player ρ π) (change : ρ → ρ) : (p.alter change).stage = p.stage :=
  stage_settle _

theorem stage_post (p : Player ρ π) (event : Event) : (p.post event).2.stage = p.stage := by
  rw [post.eq_def]
  split
  · rfl
  next held hh =>
    split
    · rfl
    · refine (stage_settle _).trans ?_
      rw [stage, stage, hh]
      rfl

theorem stage_stop (p : Player ρ π) : p.stop.stage = none := by
  cases hh : p.held with
  | none =>
      rw [stop_of_held_none hh, stage]
      exact congrArg (Option.map _) hh
  | some held =>
      rw [stop_of_held hh]
      rfl

theorem held_stop (p : Player ρ π) : p.stop.held = none :=
  held_of_stage (stage_stop p)

/-- After a build that succeeded a start cannot fail. -/
theorem start_of_built {p p' : Player ρ π} {request : BuildRequest}
    (h : p.build request = (.ok (), p')) :
    p'.start = (.ok (), p'.start.2) ∧ p'.start.2.stage = some true := by
  have hend := build_end p request
  rw [h] at hend
  cases hend with
  | @built t pipeline engine _ ht hi =>
      have hh : (p.afterBuild t pipeline engine).held = some ⟨t, pipeline, [], none⟩ := rfl
      rw [start_of_unstarted hh rfl]
      refine ⟨rfl, ?_⟩
      rw [stage_settle]
      rfl

theorem state_stop (p : Player ρ π) : p.stop.state ≠ .playing := by
  cases hh : p.held with
  | none =>
      rw [stop_of_held_none hh]
      simp only
      split <;> nofun
  | some held =>
      rw [stop_of_held hh]
      nofun

/-- A player that has been stopped does not refuse to build. -/
theorem build_of_stopped {p p' : Player ρ π} {request : BuildRequest} {cause : BuildFault}
    (h : p.stop.build request = (.error cause, p')) : cause ≠ .playing ∧ p'.stage = none := by
  have hend := build_end p.stop request
  rw [h] at hend
  cases hend with
  | refused hbusy =>
      rcases hbusy with hs | hs
      · rw [isStarted_of_held_none (held_of_stage (stage_stop p))] at hs
        cases hs
      · exact absurd hs (state_stop p)
  | failed _ other => exact ⟨other, rfl⟩

end StandbyStream.Player
