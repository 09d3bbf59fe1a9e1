import StandbyStream.Proofs.Station.Turn

/-!
# The ledger of a station

What the answers of a station amount to is kept in a `Ledger`: whether the stream is wanted, and
whether a restart of it has failed. The ledger says what the station holds (`Standing`): a started
pipeline as long as the stream is wanted and no restart has failed, else none. A pipeline that was
built and not started is never held between two turns.
-/

namespace StandbyStream.Station

variable {ρ π : Type}

/-- What the answers of a station amount to. -/
structure Ledger where
  /-- A start has succeeded, and the stream has not been stopped since. -/
  wanted : Bool
  /-- A supervision has failed since the last start that succeeded. -/
  restartFailed : Bool

/-- Where a station stands, by its ledger. -/
inductive Standing : Ledger → Station ρ π → Prop
  | off {s : Station ρ π} (started : s.started = false) (stage : s.player.stage = none) :
      Standing ⟨false, false⟩ s
  | on {s : Station ρ π} (started : s.started = true) (asked : s.stopRequested = false)
      (stage : s.player.stage = some true) :
      Standing ⟨true, false⟩ s
  | lost {s : Station ρ π} (started : s.started = true) (asked : s.stopRequested = false)
      (stage : s.player.stage = none) :
      Standing ⟨true, true⟩ s

/-- The ledger after a start, by the answer to it. -/
def Ledger.afterStart (ledger : Ledger) : Except Fault Unit → Ledger
  | .ok () => ⟨true, false⟩
  | .error _ => ledger

variable [MediaEngine ρ π]

/-- The ledger after a turn, by the answer to it. -/
def ledgerAfter (s : Station ρ π) (ledger : Ledger) : Turn ρ → Ledger
  | .action (.command message) =>
    match Command.parse message with
    | .ok .stop => ⟨false, false⟩
    | _ => ledger.afterStart (s.command message).1
  | .action .start => ledger.afterStart s.start.1
  | .action .supervise =>
    match s.supervise.1 with
    | .ok .idle => ledger
    | .ok .restarted => { ledger with restartFailed := false }
    | .error _ => { ledger with restartFailed := true }
  | .action .stop => ⟨false, false⟩
  | _ => ledger

/-- The ledger after turns, the one before them given. -/
def ledgerOf (s : Station ρ π) (ledger : Ledger) : List (Turn ρ) → Ledger
  | [] => ledger
  | turn :: turns => (s.take turn).ledgerOf (s.ledgerAfter ledger turn) turns

namespace Standing

variable {ledger : Ledger} {s : Station ρ π}

omit [MediaEngine ρ π] in
/-- A pipeline that is held has been started. -/
theorem stage_cases (h : Standing ledger s) :
    s.player.stage = none ∨ s.player.stage = some true := by
  cases h with
  | off _ stage => exact .inl stage
  | on _ _ stage => exact .inr stage
  | lost _ _ stage => exact .inl stage

omit [MediaEngine ρ π] in
/-- A player at the same stage changes nothing. -/
theorem withPlayer (h : Standing ledger s) {player : Player ρ π}
    (hp : player.stage = s.player.stage) : Standing ledger { s with player } := by
  cases h with
  | off started stage => exact .off started (hp.trans stage)
  | on started asked stage => exact .on started asked (hp.trans stage)
  | lost started asked stage => exact .lost started asked (hp.trans stage)

theorem afterStart {player built : Player ρ π} {request : BuildRequest}
    (hb : player.build request = (.ok (), built)) (p : Parameters) :
    Standing ⟨true, false⟩ (s.afterStart built p) :=
  .on rfl rfl (Player.start_of_built hb).2

/-- A build that fails changes nothing but the engine, which may have seen an attempt to make a
pipeline. -/
theorem player_of_failed (h : Standing ledger s) {request : BuildRequest}
    {cause : Player.BuildFault} {player : Player ρ π}
    (hb : s.player.build request = (.error cause, player)) :
    player = { s.player with engine := player.engine } ∧
      (player.engine = s.player.engine ∨
        ∃ t fault, MediaEngine.instantiate t s.player.engine = (.error fault, player.engine)) := by
  have hend := Player.build_end s.player request
  rw [hb] at hend
  cases hend with
  | refused => exact ⟨rfl, .inl rfl⟩
  | failed free _ hengine =>
      refine ⟨?_, hengine⟩
      -- the build has given up what was held; a started pipeline would have had it refused
      rcases h.stage_cases with hs | hs
      · rw [← Player.held_of_stage hs]
      · rw [Player.isStarted_of_stage hs] at free
        cases free

theorem afterFailure (h : Standing ledger s) {request : BuildRequest}
    {cause : Player.BuildFault} {player : Player ρ π}
    (hb : s.player.build request = (.error cause, player)) :
    Standing ledger { s with player } := by
  have hstage := congrArg Player.stage (h.player_of_failed hb).1
  exact h.withPlayer hstage

theorem stop (s : Station ρ π) : Standing ⟨false, false⟩ s.stop :=
  .off rfl (Player.stage_stop s.player)

theorem startEnd (h : Standing ledger s) {result : Except Fault Unit × Station ρ π}
    (hend : StartEnd s result) : Standing (ledger.afterStart result.1) result.2 := by
  cases hend with
  | refused => exact h
  | failed hb => exact h.afterFailure hb
  | started hb => exact afterStart hb _

theorem command (h : Standing ledger s) (message : Bytes) :
    Standing (s.ledgerAfter ledger (.action (.command message))) (s.command message).2 := by
  rw [ledgerAfter]
  rcases s.command_end message with ⟨hm, hc⟩ | ⟨hm, hend⟩
  · rw [hm, hc]
    exact stop s
  · split
    · next hstop => exact absurd hstop hm
    · exact h.startEnd hend

/-- Only a stream that is wanted is started again. -/
theorem supervise (h : Standing ledger s) :
    Standing (s.ledgerAfter ledger (.action .supervise)) s.supervise.2 := by
  have hend := s.supervision_end
  rw [ledgerAfter]
  generalize s.supervise = result at hend
  cases hend with
  | idle => exact h
  | @failed cause player needed hb =>
      -- the stop before the build has given the pipeline up
      have hstage := (Player.build_of_stopped hb).2
      simp only [needsRestart, Bool.and_eq_true, Bool.not_eq_true'] at needed
      obtain ⟨⟨hs, ha⟩, he⟩ := needed
      cases h with
      | off started => rw [started] at hs; cases hs
      | on started asked => exact .lost started asked hstage
      | lost started asked => exact .lost started asked hstage
  | restarted needed hb =>
      simp only [needsRestart, Bool.and_eq_true, Bool.not_eq_true'] at needed
      obtain ⟨⟨hs, ha⟩, he⟩ := needed
      cases h with
      | off started => rw [started] at hs; cases hs
      | on => exact afterStart hb _
      | lost => exact afterStart hb _

theorem chunk (h : Standing ledger s) (raw : Bytes) : Standing ledger (s.chunk raw).2 := by
  rw [Station.chunk.eq_def]
  split
  · exact h
  · exact h.withPlayer (Player.stage_submit _ _)

omit [MediaEngine ρ π] in
theorem new (engine : ρ) (settings : StationSettings) :
    Standing ⟨false, false⟩ (Station.new engine settings : Station ρ π) :=
  .off rfl rfl

theorem take (h : Standing ledger s) (turn : Turn ρ) :
    Standing (s.ledgerAfter ledger turn) (s.take turn) := by
  cases turn with
  | expiry => exact h.withPlayer (Player.stage_expire _)
  | action a =>
      cases a with
      | command message => exact h.command message
      | start => exact h.startEnd s.start_end
      | chunk raw => exact h.chunk raw
      | submit frame => exact h.withPlayer (Player.stage_submit _ _)
      | post event => exact h.withPlayer (Player.stage_post _ _)
      | supervise => exact h.supervise
      | stop => exact stop s
      | alter change => exact h.withPlayer (Player.stage_alter _ _)

theorem after (h : Standing ledger s) (turns : List (Turn ρ)) :
    Standing (s.ledgerOf ledger turns) (s.after turns) := by
  induction turns generalizing ledger s with
  | nil => exact h
  | cons turn turns ih => exact ih (h.take turn)

end Standing

end StandbyStream.Station
