import Mathlib.Data.List.ModifyLast
import StandbyStream.Proofs.Player.Turn
import StandbyStream.Proofs.Topology.Build

/-!
# Courses

What one pipeline is told over its whole life is a `Course`: nothing or a play; after a play that
was accepted, accepted buffers and at most one last word, which is a refused buffer or a switch to
the fallback; then nothing or a farewell. How far a pipeline gets on its course is read off the
answers of the player (`Player.livesOf`).
-/

namespace StandbyStream

/-! ## Courses -/

/-- What ends the flow of buffers into a pipeline. -/
inductive LastWord where
  | refused (buffer : Buffer)
  | switched (accepted : Bool)

/-- The call with which the flow of buffers ended. -/
def LastWord.call : LastWord → Call × Bool
  | .refused buffer => (.push buffer, false)
  | .switched accepted => (.select .fallback, accepted)

/-- What a pipeline was told from its start to its farewell. -/
inductive Service where
  /-- It could not play. -/
  | unplayable
  /-- It played, and took buffers. -/
  | played (buffers : List Buffer) (last : Option LastWord)

/-- The calls of a service. -/
def Service.calls : Service → List (Call × Bool)
  | .unplayable => [(.play, false)]
  | .played buffers last =>
    (.play, true) :: buffers.map (fun buffer => (.push buffer, true)) ++
      last.toList.map LastWord.call

/-- How a pipeline was taken down. -/
structure Farewell where
  /-- The answer to the end of the live input, where it was told of it. -/
  endOfStream : Option Bool
  halted : Bool

/-- The calls of a farewell. -/
def Farewell.calls (f : Farewell) : List (Call × Bool) :=
  (.disconnectDemand, true) ::
    f.endOfStream.toList.map (fun accepted => (.endOfStream, accepted)) ++ [(.halt, f.halted)]

/-- All that a pipeline is told. -/
structure Course where
  service : Option Service
  farewell : Option Farewell

/-- The calls of a course. -/
def Course.calls (c : Course) : List (Call × Bool) :=
  (c.service.map Service.calls).getD [] ++ (c.farewell.map Farewell.calls).getD []

/-! ## Lives -/

/-- What was done with a pipeline. -/
structure Life where
  topology : Topology
  /-- It was started. -/
  started : Bool
  /-- It was held when the player was stopped. -/
  stopped : Bool

/-- A course that goes as far as the life of its pipeline. -/
structure Course.Of (life : Life) (c : Course) : Prop where
  started : c.service.isSome = life.started
  stopped : c.farewell.isSome = life.stopped
  /-- The live input is ended where there is one and it was started. -/
  ending : ∀ f, c.farewell = some f →
    f.endOfStream.isSome = (life.started && life.topology.liveSource?.isSome)
  /-- Without a live input no buffer is pushed and nothing is switched. -/
  silent : ∀ buffers last, c.service = some (.played buffers last) →
    life.topology.mode = .fallbackOnly → buffers = [] ∧ last = none

namespace Course

variable {life : Life} {c : Course}

/-- A pipeline that was neither started nor stopped is told nothing. -/
theorem Of.calls_of_untouched (h : c.Of life) (hstart : life.started = false)
    (hstop : life.stopped = false) : c.calls = [] := by
  obtain ⟨service, farewell⟩ := c
  have hs : service = none := by simpa [hstart] using h.started
  have hf : farewell = none := by simpa [hstop] using h.stopped
  rw [hs, hf]
  rfl

/-- A pipeline without a live input is played, disconnected and halted, and that is all. -/
theorem Of.heard_of_fallbackOnly (h : c.Of life) (hm : life.topology.mode = .fallbackOnly)
    (hsource : life.topology.liveSource?.isSome = false) {heard : Call × Bool}
    (hmem : heard ∈ c.calls) :
    heard.1 = .play ∨ heard.1 = .disconnectDemand ∨ heard.1 = .halt := by
  obtain ⟨service, farewell⟩ := c
  rcases List.mem_append.1 hmem with hmem | hmem
  · cases service with
    | none => cases hmem
    | some service =>
        cases service with
        | unplayable =>
            cases List.mem_singleton.1 hmem
            exact .inl rfl
        | played buffers last =>
            obtain ⟨rfl, rfl⟩ := h.silent buffers last rfl hm
            cases List.mem_singleton.1 hmem
            exact .inl rfl
  · cases farewell with
    | none => cases hmem
    | some f =>
        have hend : f.endOfStream = none := by simpa [hsource] using h.ending f rfl
        have hcalls : f.calls = [(.disconnectDemand, true), (.halt, f.halted)] := by
          rw [Farewell.calls, hend]
          rfl
        change heard ∈ f.calls at hmem
        rw [hcalls] at hmem
        simp only [List.mem_cons, List.not_mem_nil, or_false] at hmem
        rcases hmem with rfl | rfl
        · exact .inr (.inl rfl)
        · exact .inr (.inr rfl)

/-- Nothing but the fallback is ever put on air by a call. -/
theorem select_live_notMem (c : Course) (accepted : Bool) :
    (.select .live, accepted) ∉ c.calls := by
  obtain ⟨service, farewell⟩ := c
  intro hmem
  rcases List.mem_append.1 hmem with hmem | hmem
  · rcases service with _ | _ | ⟨buffers, _ | last⟩
    · cases hmem
    · simp [Service.calls] at hmem
    · simp [Service.calls] at hmem
    · cases last <;> simp [Service.calls, LastWord.call] at hmem
  · cases farewell with
    | none => cases hmem
    | some f => simp [Farewell.calls] at hmem

end Course

variable {ρ π : Type} [MediaEngine ρ π]

namespace Player

/-- The lives of the pipelines after a turn, by the answer to it. -/
def livesAfter (p : Player ρ π) (lives : List Life) : Turn ρ → List Life
  | .action (.build request) =>
    match Topology.build request, (p.build request).1 with
    | .ok t, .ok () => lives ++ [⟨t, false, false⟩]
    | _, _ => lives
  | .action .start =>
    match p.start.1 with
    | .ok () => lives.modifyLast fun life => { life with started := true }
    | .error _ => lives
  | .action .stop =>
    if p.held.isSome then lives.modifyLast fun life => { life with stopped := true } else lives
  | _ => lives

/-- The lives of the pipelines after turns, those before them given. -/
def livesOf (p : Player ρ π) (lives : List Life) : List (Turn ρ) → List Life
  | [] => lives
  | turn :: turns => (p.take turn).livesOf (p.livesAfter lives turn) turns

theorem livesAfter_untaped (p : Player (Tape ρ) (Taped π)) (lives : List Life) (turn : Turn ρ) :
    p.untaped.livesAfter lives turn = p.livesAfter lives turn.onTape := by
  cases turn with
  | expiry => rfl
  | action a =>
      cases a with
      | build request =>
          have h := congrArg Prod.fst (build_untaped p request)
          simp only at h
          simp only [livesAfter, Turn.onTape, Action.onTape, h]
      | start =>
          have h := congrArg Prod.fst (start_untaped p)
          simp only at h
          simp only [livesAfter, Turn.onTape, Action.onTape, h]
      | stop => simp only [livesAfter, Turn.onTape, Action.onTape, untaped, Option.isSome_map]
      | _ => rfl

theorem livesOf_untaped (p : Player (Tape ρ) (Taped π)) (lives : List Life)
    (turns : List (Turn ρ)) :
    p.untaped.livesOf lives turns = p.livesOf lives (turns.map Turn.onTape) := by
  induction turns generalizing p lives with
  | nil => rfl
  | cons turn turns ih =>
      rw [List.map_cons, livesOf, livesOf, livesAfter_untaped, take_untaped, ih]

end Player

end StandbyStream
