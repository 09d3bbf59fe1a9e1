import StandbyStream.Engine.Recorder

/-!
# The tape

Any engine can be put on a tape: it goes on as before, and the tape records which topologies
pipelines were made for and which calls each of them received, with the answers. An engine cannot
tell whether it is on a tape (`Rig.untaped` commutes with every operation by definition), so what
is shown of tapes is a fact about the calls of any engine.
-/

namespace StandbyStream

/-- A line of a tape: a pipeline was made, or one was called. Pipelines are numbered in the order in
which they were made. -/
inductive Entry where
  | made (t : Topology)
  | call (pipeline : Nat) (call : Call) (accepted : Bool)

/-- What a tape has recorded, the oldest first. -/
abbrev Log := List Entry

namespace Log

/-- The topologies for which pipelines were made. -/
def made (log : Log) : List Topology :=
  log.filterMap fun
    | .made t => some t
    | .call .. => none

/-- The calls that a pipeline received, with their answers. -/
def callsOf (pipeline : Nat) (log : Log) : List (Call × Bool) :=
  log.filterMap fun
    | .made _ => none
    | .call number call accepted => if number = pipeline then some (call, accepted) else none

/-- The lines for calls to one pipeline. -/
def entries (pipeline : Nat) (calls : List (Call × Bool)) : Log :=
  calls.map fun (call, accepted) => .call pipeline call accepted

/-- Every call went to the pipeline that was made last before it. -/
def ToNewest (log : Log) : Prop :=
  ∀ (i pipeline : Nat) (call : Call) (accepted : Bool),
    log[i]? = some (.call pipeline call accepted) → (made (log.take i)).length = pipeline + 1

@[simp] theorem made_append (log log' : Log) : made (log ++ log') = log.made ++ log'.made :=
  List.filterMap_append

@[simp] theorem made_entries (pipeline : Nat) (calls : List (Call × Bool)) :
    (entries pipeline calls).made = [] := by
  induction calls with
  | nil => rfl
  | cons heard calls ih => exact ih

@[simp] theorem callsOf_append (pipeline : Nat) (log log' : Log) :
    callsOf pipeline (log ++ log') = log.callsOf pipeline ++ log'.callsOf pipeline :=
  List.filterMap_append

@[simp] theorem callsOf_entries_self (pipeline : Nat) (calls : List (Call × Bool)) :
    (entries pipeline calls).callsOf pipeline = calls := by
  induction calls with
  | nil => rfl
  | cons heard calls ih =>
      simp only [entries, List.map_cons, callsOf, List.filterMap_cons, if_true]
      exact congrArg (List.cons heard) ih

theorem callsOf_entries_of_ne {pipeline other : Nat} (h : other ≠ pipeline)
    (calls : List (Call × Bool)) : (entries other calls).callsOf pipeline = [] := by
  induction calls with
  | nil => rfl
  | cons heard calls ih =>
      simp only [entries, List.map_cons, callsOf, List.filterMap_cons, if_neg h]
      exact ih

theorem entries_append (pipeline : Nat) (calls calls' : List (Call × Bool)) :
    entries pipeline (calls ++ calls') = entries pipeline calls ++ entries pipeline calls' :=
  List.map_append

theorem take_entries (i pipeline : Nat) (calls : List (Call × Bool)) :
    (entries pipeline calls).take i = entries pipeline (calls.take i) :=
  List.map_take.symm

theorem toNewest_nil : ToNewest [] := by
  intro i pipeline call accepted h
  simp at h

/-- A tape stays in order when the pipeline that was made last is called. -/
theorem ToNewest.append_entries {log : Log} (h : log.ToNewest) {pipeline : Nat}
    (newest : log.made.length = pipeline + 1) (calls : List (Call × Bool)) :
    (log ++ entries pipeline calls).ToNewest := by
  intro i number call accepted hi
  rw [List.getElem?_append] at hi
  split at hi
  · next hlt =>
      rw [List.take_append_of_le_length (Nat.le_of_lt hlt)]
      exact h i number call accepted hi
  · next hle =>
      -- a new line; none of those before it makes a pipeline
      have hn : number = pipeline := by
        simp only [entries, List.getElem?_map, Option.map_eq_some_iff] at hi
        obtain ⟨_, -, he⟩ := hi
        cases he
        rfl
      rw [List.take_append, List.take_of_length_le (Nat.le_of_not_lt hle), take_entries,
        made_append, made_entries, List.append_nil, newest, hn]

/-- A tape stays in order when a pipeline is made. -/
theorem ToNewest.append_made {log : Log} (h : log.ToNewest) (t : Topology) :
    ToNewest (log ++ [Entry.made t]) := by
  intro i number call accepted hi
  rw [List.getElem?_append] at hi
  split at hi
  · next hlt =>
      rw [List.take_append_of_le_length (Nat.le_of_lt hlt)]
      exact h i number call accepted hi
  · rw [List.getElem?_singleton] at hi
    split at hi <;> simp at hi

/-- A pipeline that has not been made yet has received no call. -/
theorem ToNewest.callsOf_eq_nil {log : Log} (h : log.ToNewest) {pipeline : Nat}
    (hp : log.made.length ≤ pipeline) : log.callsOf pipeline = [] := by
  rw [callsOf, List.filterMap_eq_nil_iff]
  intro entry hm
  cases entry with
  | made t => rfl
  | call number call accepted =>
      obtain ⟨i, hi⟩ := List.mem_iff_getElem?.1 hm
      have hn := h i number call accepted hi
      have hle : (made (log.take i)).length ≤ log.made.length :=
        ((List.take_sublist i log).filterMap _).length_le
      have hne : number ≠ pipeline := by omega
      simp [hne]

end Log

/-- An engine on a tape. -/
structure Tape (ρ : Type) where
  engine : ρ
  log : Log

/-- A pipeline of an engine on a tape, with its number. -/
structure Taped (π : Type) where
  number : Nat
  pipeline : π

/-- An engine on an empty tape. -/
def Tape.fresh {ρ : Type} (engine : ρ) : Tape ρ :=
  ⟨engine, []⟩

variable {ρ π : Type}

/-- The engine on a tape is changed from outside; nothing is recorded. -/
def Tape.alter (change : ρ → ρ) (tape : Tape ρ) : Tape ρ :=
  { tape with engine := change tape.engine }

namespace Rig

/-- A pipeline and its engine, off the tape. -/
def untaped (rig : Rig (Tape ρ) (Taped π)) : Rig ρ π :=
  ⟨rig.pipeline.pipeline, rig.engine.engine⟩

/-- The pipeline and its engine after a call, which is recorded. -/
def afterCall (rig : Rig (Tape ρ) (Taped π)) (call : Call) (accepted : Bool) (untaped : Rig ρ π) :
    Rig (Tape ρ) (Taped π) :=
  ⟨⟨rig.pipeline.number, untaped.pipeline⟩,
    ⟨untaped.engine, rig.engine.log ++ [.call rig.pipeline.number call accepted]⟩⟩

/-- A pipeline and its engine after calls to this pipeline alone. -/
def Told (rig rig' : Rig (Tape ρ) (Taped π)) (calls : List (Call × Bool)) : Prop :=
  rig'.pipeline.number = rig.pipeline.number ∧
    rig'.engine.log = rig.engine.log ++ Log.entries rig.pipeline.number calls

theorem Told.refl (rig : Rig (Tape ρ) (Taped π)) : rig.Told rig [] :=
  ⟨rfl, (List.append_nil _).symm⟩

theorem Told.callsOf {rig rig' : Rig (Tape ρ) (Taped π)} {calls : List (Call × Bool)}
    (h : rig.Told rig' calls) :
    rig'.engine.log.callsOf rig'.pipeline.number =
      rig.engine.log.callsOf rig.pipeline.number ++ calls := by
  obtain ⟨hn, hl⟩ := h
  rw [hn, hl, Log.callsOf_append, Log.callsOf_entries_self]

theorem Told.trans {rig rig' rig'' : Rig (Tape ρ) (Taped π)} {calls calls' : List (Call × Bool)}
    (h : rig.Told rig' calls) (h' : rig'.Told rig'' calls') : rig.Told rig'' (calls ++ calls') := by
  obtain ⟨hn, hl⟩ := h
  obtain ⟨hn', hl'⟩ := h'
  refine ⟨hn'.trans hn, ?_⟩
  rw [hl', hl, hn, Log.entries_append, List.append_assoc]

end Rig

variable [MediaEngine ρ π]

/-- Makes a pipeline and records its topology; an attempt that fails is not recorded. -/
def Tape.instantiate (t : Topology) (tape : Tape ρ) : Except Plain (Taped π) × Tape ρ :=
  match MediaEngine.instantiate t tape.engine with
  | (.error fault, engine) => (.error fault, { tape with engine })
  | (.ok pipeline, engine) =>
    (.ok ⟨tape.log.made.length, pipeline⟩, ⟨engine, tape.log ++ [.made t]⟩)

instance : MediaEngine (Tape ρ) (Taped π) where
  name tape := MediaEngine.name tape.engine
  hasFactory tape := MediaEngine.hasFactory tape.engine
  instantiate := Tape.instantiate
  play rig :=
    let (answer, untaped) := MediaEngine.play rig.untaped
    (answer, rig.afterCall .play answer.isOk untaped)
  halt rig :=
    let (answer, untaped) := MediaEngine.halt rig.untaped
    (answer, rig.afterCall .halt answer.isOk untaped)
  push buffer rig :=
    let (answer, untaped) := MediaEngine.push buffer rig.untaped
    (answer, rig.afterCall (.push buffer) answer.isOk untaped)
  endOfStream rig :=
    let (answer, events, untaped) := MediaEngine.endOfStream rig.untaped
    (answer, events, rig.afterCall .endOfStream answer.isOk untaped)
  select input rig :=
    let (answer, untaped) := MediaEngine.select input rig.untaped
    (answer, rig.afterCall (.select input) answer.isOk untaped)
  disconnectDemand rig :=
    rig.afterCall .disconnectDemand true (MediaEngine.disconnectDemand rig.untaped)
  raiseDemand? rig :=
    (MediaEngine.raiseDemand? rig.untaped).map fun untaped =>
      ⟨⟨rig.pipeline.number, untaped.pipeline⟩, ⟨untaped.engine, rig.engine.log⟩⟩

/-! ## What the calls leave on the tape -/

/-- An attempt that fails reaches the engine and leaves no trace on the tape. -/
theorem Tape.of_failed {t : Topology} {tape tape' : Tape ρ} {fault : Plain}
    (h : MediaEngine.instantiate t tape = (.error fault, tape')) :
    tape'.log = tape.log ∧
      MediaEngine.instantiate t tape.engine = (.error fault, tape'.engine) := by
  change Tape.instantiate t tape = _ at h
  rw [Tape.instantiate.eq_def] at h
  split at h
  · next hi =>
      cases h
      exact ⟨rfl, hi⟩
  · cases h

/-- Whether or not it has reached the engine, an attempt that fails leaves no trace on the tape. -/
theorem Tape.log_of_attempt {tape tape' : Tape ρ}
    (h : tape' = tape ∨ ∃ t fault, MediaEngine.instantiate t tape = (.error fault, tape')) :
    tape'.log = tape.log := by
  rcases h with rfl | ⟨t, fault, hi⟩
  · rfl
  · exact (Tape.of_failed hi).1

theorem Tape.log_of_made {t : Topology} {tape tape' : Tape ρ} {pipeline : Taped π}
    (h : MediaEngine.instantiate t tape = (.ok pipeline, tape')) :
    pipeline.number = tape.log.made.length ∧ tape'.log = tape.log ++ [.made t] := by
  change Tape.instantiate t tape = _ at h
  rw [Tape.instantiate.eq_def] at h
  split at h <;> cases h
  exact ⟨rfl, rfl⟩

namespace Rig

variable {rig rig' : Rig (Tape ρ) (Taped π)}

theorem told_of_play {answer : Except Plain Unit} (h : MediaEngine.play rig = (answer, rig')) :
    rig.Told rig' [(.play, answer.isOk)] := by
  cases h
  exact ⟨rfl, rfl⟩

theorem told_of_push {buffer : Buffer} {answer : Except FlowError Unit}
    (h : MediaEngine.push buffer rig = (answer, rig')) :
    rig.Told rig' [(.push buffer, answer.isOk)] := by
  cases h
  exact ⟨rfl, rfl⟩

theorem told_of_disconnectDemand (rig : Rig (Tape ρ) (Taped π)) :
    rig.Told (MediaEngine.disconnectDemand rig) [(.disconnectDemand, true)] :=
  ⟨rfl, rfl⟩

theorem told_of_endOfStream (rig : Rig (Tape ρ) (Taped π)) :
    rig.Told (MediaEngine.endOfStream rig).2.2
      [(.endOfStream, (MediaEngine.endOfStream rig).1.isOk)] :=
  ⟨rfl, rfl⟩

theorem told_of_halt (rig : Rig (Tape ρ) (Taped π)) :
    rig.Told (MediaEngine.halt rig).2 [(.halt, (MediaEngine.halt rig).1.isOk)] :=
  ⟨rfl, rfl⟩

theorem told_of_select {input : Input} {answer : Except Plain Unit}
    (h : MediaEngine.select input rig = (answer, rig')) :
    rig.Told rig' [(.select input, answer.isOk)] := by
  cases h
  exact ⟨rfl, rfl⟩

theorem told_of_raiseDemand (h : MediaEngine.raiseDemand? rig = some rig') :
    rig.Told rig' [] := by
  obtain ⟨untaped, -, rfl⟩ := Option.map_eq_some_iff.1 h
  exact ⟨rfl, (List.append_nil _).symm⟩

end Rig

end StandbyStream
