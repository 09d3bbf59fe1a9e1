import StandbyStream.Proofs.Station.Parameters
import StandbyStream.Proofs.Station.Restart

/-!
# Standstill

A station that has been stopped stands still until a start is accepted: it holds no pipeline, its
state stays as the stop left it, and no supervision does anything (`StandsStill.after`). A stream
whose loop runs is left alone by supervisions as well (`standstill_of_stop`).
-/

namespace StandbyStream

variable {ρ π : Type}

namespace Player

/-- No pipeline is held, and the state is this one, which is that of a stream that was stopped. -/
structure Off (state : State) (p : Player ρ π) : Prop where
  held : p.held = none
  kept : p.state = state
  still : state = .unbuilt ∨ state = .stopped

/-- A loop that runs has not ended. -/
theorem loopEnded_of_loopRuns {p : Player ρ π} (h : p.loopRuns = true) : p.loopEnded = false := by
  rw [loopRuns, Option.any_eq_true] at h
  obtain ⟨held, hh, h⟩ := h
  obtain ⟨running, hr, on⟩ := (Option.any_eq_true _ _).1 h
  rw [loopEnded, hh, Option.any_some, hr, Option.any_some]
  simpa using on

namespace Off

variable [MediaEngine ρ π] {state : State} {p : Player ρ π}

/-- Without a pipeline there is no loop that could do anything. -/
theorem durable (state : State) : Durable (Off state : Player ρ π → Prop) where
  patience := fun h _ => ⟨h.held, h.kept, h.still⟩
  pending := fun hh h _ => absurd (hh.symm.trans h.held) nofun
  begin := fun hh _ h => absurd (hh.symm.trans h.held) nofun
  step := fun hh _ _ h => absurd (hh.symm.trans h.held) nofun

/-- A build that fails does not touch the state. -/
theorem of_failed (h : p.Off state) {request : BuildRequest} {cause : BuildFault}
    {p' : Player ρ π} (hb : p.build request = (.error cause, p')) : p'.Off state := by
  have hend := build_end p request
  rw [hb] at hend
  cases hend with
  | refused => exact h
  | failed => exact ⟨rfl, h.kept, h.still⟩

/-- A further stop changes nothing about it. -/
theorem stop (h : p.Off state) : p.stop.Off state := by
  refine ⟨p.held_stop, ?_, h.still⟩
  rw [stop_of_held_none h.held, h.kept]
  rcases h.still with rfl | rfl
  · rfl
  · rfl

theorem of_stop (p : Player ρ π) : p.stop.Off p.stop.state := by
  refine ⟨p.held_stop, rfl, ?_⟩
  cases hh : p.held with
  | none =>
      rw [stop_of_held_none hh]
      by_cases hu : p.state = .unbuilt
      · exact .inl (if_pos hu)
      · exact .inr (if_neg hu)
  | some held =>
      rw [stop_of_held hh]
      exact .inr rfl

end Off

end Player

namespace Station

/-- The action is a stop, by command or not. -/
def Action.stops : Action ρ → Bool
  | .stop => true
  | .command message =>
    match Command.parse message with
    | .ok .stop => true
    | _ => false
  | _ => false

/-- The stream is not wanted, and its player is off in this state. -/
structure StandsStill (state : State) (s : Station ρ π) : Prop where
  started : s.started = false
  off : s.player.Off state

variable [MediaEngine ρ π]

namespace StandsStill

variable {state : State} {s s' : Station ρ π}

omit [MediaEngine ρ π] in
theorem needsRestart (h : StandsStill state s) : s.needsRestart = false := by
  rw [Station.needsRestart, h.started]
  rfl

/-- Every turn in which no start is accepted leaves it so. -/
theorem step (h : StandsStill state s) {turn : Turn ρ} (hend : TurnEnd s turn none s') :
    StandsStill state s' := by
  -- what is not wanted needs no restart, so a supervision can only have been idle
  have unneeded : s.needsRestart ≠ true := by simp [h.needsRestart]
  cases hend with
  | relayed ht =>
      refine ⟨h.started, ?_⟩
      exact relayed_of_durable (Player.Off.durable state)
        (fun _ hp => ⟨hp.held, hp.kept, hp.still⟩) (fun _ hp => ⟨hp.held, hp.kept, hp.still⟩)
        ht h.off
  | idle => exact h
  | failed hb => exact ⟨h.started, h.off.of_failed hb⟩
  | stopped => exact ⟨rfl, h.off.stop⟩
  | lost needed => exact absurd needed unneeded
  | restarted needed => exact absurd needed unneeded

theorem after (h : StandsStill state s) {turns : List (Turn ρ)}
    (hn : s.startsIn turns = false) : StandsStill state (s.after turns) := by
  induction turns generalizing s with
  | nil => exact h
  | cons turn turns ih =>
      rw [startsIn, Bool.or_eq_false_iff] at hn
      obtain ⟨hfirst, hrest⟩ := hn
      have hend := s.turn_end turn
      rw [Option.isSome_eq_false_iff, Option.isNone_iff_eq_none] at hfirst
      rw [hfirst] at hend
      exact ih (h.step hend) hrest

/-- Whatever the engine is like, a supervision leaves it alone. -/
theorem supervise (h : StandsStill state s) (engine : ρ) :
    let s' := { s with player := { s.player with engine } }
    s'.supervise = (.ok .idle, s') :=
  supervise_of_not_needed h.needsRestart

/-- A stop brings a station to a standstill. -/
theorem of_stops (s : Station ρ π) {a : Action ρ} (ha : a.stops = true) :
    StandsStill (s.act a).player.state (s.act a) := by
  have hstop : StandsStill s.stop.player.state s.stop := ⟨rfl, .of_stop s.player⟩
  cases a with
  | stop => exact hstop
  | command message =>
      rw [Action.stops] at ha
      split at ha
      · next hm =>
          have hc : s.command message = (.ok (), s.stop) := by rw [command.eq_def, hm]
          rw [act, hc]
          exact hstop
      · cases ha
  | _ => cases ha

end StandsStill

/-- After a stop, by command or not, the stream does not come back to life by itself. Until a start
is accepted, whatever happens in between: no pipeline is held, the state is the one that the stop
left, which is neither `built` nor `playing`, and a supervision is idle and does not even turn to
the engine. The other way round, a supervision does nothing to a stream whose loop runs. -/
theorem standstill_of_stop :
    (∀ (s : Station ρ π) (a : Action ρ), a.stops = true →
      ∀ later : List (Turn ρ), (s.act a).startsIn later = false →
      let t := (s.act a).after later
      (t.player.held = none ∧ t.player.state = (s.act a).player.state ∧
        t.player.state ≠ .built ∧ t.player.state ≠ .playing) ∧
      ∀ engine : ρ,
        let t' := { t with player := { t.player with engine } }
        t'.supervise = (.ok .idle, t')) ∧
    ∀ s : Station ρ π, s.player.loopRuns = true → s.supervise = (.ok .idle, s) := by
  constructor
  · intro s a ha later hn t
    have h : StandsStill (s.act a).player.state t := (StandsStill.of_stops s ha).after hn
    obtain ⟨held, kept, still⟩ := h.off
    refine ⟨⟨held, kept, ?_, ?_⟩, h.supervise⟩
    · intro hbuilt
      rw [← kept, hbuilt] at still
      rcases still with hs | hs <;> cases hs
    · intro hplaying
      rw [← kept, hplaying] at still
      rcases still with hs | hs <;> cases hs
  · intro s on
    apply supervise_of_not_needed
    rw [needsRestart, Player.loopEnded_of_loopRuns on, Bool.and_false]

/-- The bytes of the command to stop. -/
def stopMessage : Bytes :=
  [123, 34, 67, 111, 109, 109, 97, 110, 100, 34, 58, 34, 115, 116, 111, 112, 34, 125]

/-- A frame, an event, a start that is refused and another stop come after a stop. -/
def aftermath : List (Turn Recorder) :=
  [.action (.submit ⟨1, [10]⟩), .action (.post (.error none "late")),
    .action (.command oddWidthMessage), .expiry, .action .stop, .action .supervise]

theorem standstill_of_aftermath :
    let s := trialAfter [.action .start]
    let t := (s.act (.command stopMessage)).after aftermath
    (s.player.loopRuns = true ∧ s.supervise = (.ok .idle, s)) ∧
      (t.player.held = none ∧ t.player.state = .stopped) ∧ t.supervise = (.ok .idle, t) := by
  intro s t
  obtain ⟨hstopped, hruns⟩ := @standstill_of_stop Recorder Nat _
  have on : s.player.loopRuns = true := by decide +kernel
  have ha : (Action.command stopMessage : Action Recorder).stops = true := by decide +kernel
  have hn : (s.act (.command stopMessage)).startsIn aftermath = false := by decide +kernel
  obtain ⟨⟨held, kept, -, -⟩, hidle⟩ := hstopped s (.command stopMessage) ha aftermath hn
  refine ⟨⟨on, hruns s on⟩, ⟨held, kept.trans ?_⟩, hidle t.player.engine⟩
  decide +kernel

end Station

end StandbyStream
