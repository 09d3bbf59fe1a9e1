import StandbyStream.Proofs.Station.Ledger
import StandbyStream.Engine.Recorder

/-!
# When a stream is started again

A stream that is wanted and whose loop does not run is started again by the next supervision, unless
a restart has failed before (`supervise_of_run`). A failed restart leaves no pipeline behind, and so
no loop of which a supervision could see that it has ended: nothing is tried any more until a start
is asked for.
-/

namespace StandbyStream

variable {ρ π : Type}

namespace Station

variable [MediaEngine ρ π]

/-- A supervision stops the stream, builds it and starts it with the parameters at hand, and fails
only as the build does, which is not refused. -/
def Restarts (s : Station ρ π) : Prop :=
  match s.player.stop.build (s.request s.parameters) with
  | (.ok (), player) =>
    player.start.1 = .ok () ∧ s.supervise = (.ok .restarted, { s with player := player.start.2 })
  | (.error cause, player) =>
    cause ≠ .playing ∧ s.supervise = (.error (.build cause), { s with player })

theorem supervise_of_not_needed {s : Station ρ π} (h : s.needsRestart = false) :
    s.supervise = (.ok .idle, s) := by
  have hn : ¬ s.needsRestart = true := by simp [h]
  exact if_neg hn

theorem not_restarts_of_not_needed {s : Station ρ π} (h : s.needsRestart = false) :
    ¬ s.Restarts := by
  intro hr
  rw [Restarts, supervise_of_not_needed h] at hr
  split at hr
  · cases hr.2
  · cases hr.2

theorem restarts_of_needed {s : Station ρ π} (h : s.needsRestart = true) : s.Restarts := by
  have hend := s.supervision_end
  rw [Restarts]
  generalize s.supervise = result at hend
  cases hend with
  | idle hn => rw [h] at hn; cases hn
  | failed _ hb =>
      rw [hb]
      exact ⟨(Player.build_of_stopped hb).1, rfl⟩
  | @restarted player _ hb =>
      rw [hb]
      simp only [needsRestart, Bool.and_eq_true, Bool.not_eq_true'] at h
      obtain ⟨⟨hs, ha⟩, -⟩ := h
      refine ⟨congrArg Prod.fst (Player.start_of_built hb).1, ?_⟩
      rw [afterStart, ← hs, ← ha]

/-- A stream that is wanted and whose loop does not run is started again by the next supervision
exactly if no restart has failed since it was last started; otherwise the supervision does
nothing. -/
theorem supervise_of_run (engine : ρ) (settings : StationSettings) (turns : List (Turn ρ)) :
    let s : Station ρ π := (new engine settings).after turns
    let ledger : Ledger := (new engine settings : Station ρ π).ledgerOf ⟨false, false⟩ turns
    ledger.wanted = true → s.player.loopRuns = false →
      (s.Restarts ↔ ledger.restartFailed = false) ∧
      (ledger.restartFailed = true → s.supervise = (.ok .idle, s)) := by
  intro s ledger hw hl
  have h : Standing ledger s := (Standing.new engine settings).after turns
  generalize ledger = ledger at h hw
  cases h with
  | off => cases hw
  | on started asked stage =>
      -- a started pipeline is held, so that the loop, which does not run, has ended
      have needed : s.needsRestart = true := by
        rw [needsRestart, started, asked, Player.loopEnded_of_stage stage hl]
        rfl
      refine ⟨⟨fun _ => rfl, fun _ => restarts_of_needed needed⟩, ?_⟩
      intro hf
      cases hf
  | lost started asked stage =>
      -- nothing is held any more, and no loop is seen to have ended
      have hend := Player.loopEnded_of_held_none (Player.held_of_stage stage)
      have needed : s.needsRestart = false := by
        rw [needsRestart, hend, Bool.and_false]
      refine ⟨⟨fun hr => absurd hr (not_restarts_of_not_needed needed), ?_⟩, ?_⟩
      · intro hf
        cases hf
      · exact fun _ => supervise_of_not_needed needed

/-- A recorder and a stream that it can play, and whose pulls wait. -/
def trialAfter (turns : List (Turn Recorder)) : Station Recorder Nat :=
  (new (.withFaults .none) ⟨⟨.h264, 640, 480, 25, 1000, "udp://h:1"⟩, true, true, ⟨2000, 4⟩⟩).after
    turns

/-- The ledger of such turns. -/
def trialLedger (turns : List (Turn Recorder)) : Ledger :=
  (trialAfter []).ledgerOf ⟨false, false⟩ turns

/-- The faults of a recorder become these. -/
def setFaults (faults : RecorderFaults) : Turn Recorder :=
  .action (.alter fun recorder => { recorder with faults })

/-- The stream ends by itself. -/
def endedOnce : List (Turn Recorder) :=
  [.action .start, .action (.post .endOfStream)]

/-- No frame comes in time, and the fallback cannot be put on air. -/
def stuckOnce : List (Turn Recorder) :=
  [.action .start, setFaults { RecorderFaults.none with select := some "stuck" },
    .action (.post .needData), .expiry]

/-- The engine is busy when the stream is to be started again, and then no longer. -/
def busySpell : List (Turn Recorder) :=
  [setFaults { RecorderFaults.none with instantiate := some "busy" }, .action .supervise,
    setFaults .none]

theorem supervise_of_trial :
    ((trialLedger stuckOnce).wanted = true ∧ (trialAfter stuckOnce).player.loopRuns = false ∧
      (trialAfter stuckOnce).Restarts) ∧
    let s := trialAfter (stuckOnce ++ busySpell)
    (trialLedger (stuckOnce ++ busySpell)).wanted = true ∧ s.player.loopRuns = false ∧
      s.supervise = (.ok .idle, s) := by
  have hw : (trialLedger stuckOnce).wanted = true := by decide +kernel
  have hl : (trialAfter stuckOnce).player.loopRuns = false := by decide +kernel
  have hf : (trialLedger stuckOnce).restartFailed = false := by decide +kernel
  have hw' : (trialLedger (stuckOnce ++ busySpell)).wanted = true := by decide +kernel
  have hl' : (trialAfter (stuckOnce ++ busySpell)).player.loopRuns = false := by decide +kernel
  have hf' : (trialLedger (stuckOnce ++ busySpell)).restartFailed = true := by decide +kernel
  have h := (supervise_of_run _ _ stuckOnce hw hl).1
  have h' := (supervise_of_run _ _ (stuckOnce ++ busySpell) hw' hl').2
  exact ⟨⟨hw, hl, h.2 hf⟩, hw', hl', h' hf'⟩

/-- A stream that is wanted and whose loop does not run is not always started again. -/
theorem not_restarts_after_failure :
    let s := trialAfter (endedOnce ++ busySpell)
    (trialLedger (endedOnce ++ busySpell)).wanted = true ∧ s.player.loopRuns = false ∧
      s.supervise.1 = .ok .idle ∧ ¬ s.Restarts := by
  intro s
  have needed : s.needsRestart = false := by decide +kernel
  refine ⟨?_, ?_, ?_, not_restarts_of_not_needed needed⟩
  · decide +kernel
  · decide +kernel
  · rw [supervise_of_not_needed needed]

end Station

end StandbyStream
