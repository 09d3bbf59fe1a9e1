import StandbyStream.Proofs.Player.Untaped
import StandbyStream.Proofs.Station.Run

/-!
# Stations off the tape

A station does the same on a tape as off it (`act_untaped`), as its player does.
-/

namespace StandbyStream.Station

variable {ρ π : Type}

/-- A station off the tape. -/
def untaped (s : Station (Tape ρ) (Taped π)) : Station ρ π :=
  ⟨s.player.untaped, s.parameters, s.liveInput, s.tlsValidation, s.started, s.stopRequested⟩

/-- An action for a station on a tape. -/
def Action.onTape : Action ρ → Action (Tape ρ)
  | .command message => .command message
  | .start => .start
  | .chunk raw => .chunk raw
  | .submit frame => .submit frame
  | .post event => .post event
  | .supervise => .supervise
  | .stop => .stop
  | .alter change => .alter (Tape.alter change)

variable [MediaEngine ρ π] (s : Station (Tape ρ) (Taped π))

theorem startWith_untaped (p : Parameters) :
    s.untaped.startWith p = ((s.startWith p).1, (s.startWith p).2.untaped) := by
  have hb := s.player.build_untaped (s.request p)
  change s.untaped.player.build (s.untaped.request p) = _ at hb
  rcases hs : s.player.build (s.request p) with ⟨cause | _, player⟩
  · rw [hs] at hb
    rw [startWith_of_failed hs, startWith_of_failed hb]
    rfl
  · rw [hs] at hb
    rw [startWith_of_built hs, startWith_of_built hb, afterStart, afterStart]
    have hstart := congrArg Prod.snd player.start_untaped
    simp only at hstart
    rw [hstart]
    rfl

theorem checkAndStart_untaped (p : Parameters) :
    s.untaped.checkAndStart p = ((s.checkAndStart p).1, (s.checkAndStart p).2.untaped) := by
  rw [checkAndStart.eq_def, checkAndStart.eq_def]
  cases p.check with
  | error cause => rfl
  | ok _ => exact s.startWith_untaped p

theorem start_untaped : s.untaped.start = (s.start.1, s.start.2.untaped) :=
  s.checkAndStart_untaped s.parameters

theorem stop_untaped : s.untaped.stop = s.stop.untaped := by
  have hp : s.untaped.player.stop = s.player.stop.untaped := s.player.stop_untaped
  rw [stop, hp]
  rfl

theorem command_untaped (message : Bytes) :
    s.untaped.command message = ((s.command message).1, (s.command message).2.untaped) := by
  rw [command.eq_def, command.eq_def]
  cases Command.parse message with
  | error cause => rfl
  | ok c =>
      cases c with
      | start overrides => exact s.checkAndStart_untaped _
      | stop => exact congrArg (Prod.mk _) s.stop_untaped

theorem chunk_untaped (raw : Bytes) :
    s.untaped.chunk raw = ((s.chunk raw).1, (s.chunk raw).2.untaped) := by
  rw [chunk.eq_def, chunk.eq_def]
  cases Frame.ofWire raw with
  | error cause => rfl
  | ok frame =>
      have hp : s.untaped.player.submit frame = (s.player.submit frame).untaped :=
        s.player.act_untaped (.submit frame)
      simp only [hp]
      rfl

omit [MediaEngine ρ π] in
theorem needsRestart_untaped : s.untaped.needsRestart = s.needsRestart := by
  rw [needsRestart, needsRestart]
  have hp : s.untaped.player.loopEnded = s.player.loopEnded := s.player.loopEnded_untaped
  rw [hp]
  rfl

theorem supervise_untaped :
    s.untaped.supervise = (s.supervise.1, s.supervise.2.untaped) := by
  rw [supervise.eq_def, supervise.eq_def, needsRestart_untaped]
  split
  · have hp : ({ s.untaped with player := s.untaped.player.stop } : Station ρ π) =
        ({ s with player := s.player.stop } : Station (Tape ρ) (Taped π)).untaped :=
      congrArg (fun player => { s.untaped with player }) s.player.stop_untaped
    have hparams : s.untaped.parameters = s.parameters := rfl
    rw [hp, hparams, startWith_untaped]
    rcases ({ s with player := s.player.stop } : Station (Tape ρ) (Taped π)).startWith
      s.parameters with ⟨cause | _, s'⟩ <;> rfl
  · rfl

/-- Taking the tape off commutes with every action. -/
theorem act_untaped (a : Action ρ) : s.untaped.act a = (s.act a.onTape).untaped := by
  have player : ∀ a : Player.Action ρ, s.untaped.player.act a = (s.player.act a.onTape).untaped :=
    s.player.act_untaped
  cases a with
  | command message => exact congrArg Prod.snd (s.command_untaped message)
  | start => exact congrArg Prod.snd s.start_untaped
  | chunk raw => exact congrArg Prod.snd (s.chunk_untaped raw)
  | submit frame =>
      exact congrArg (fun player => { s.untaped with player }) (player (.submit frame))
  | post event => exact congrArg (fun player => { s.untaped with player }) (player (.post event))
  | supervise => exact congrArg Prod.snd s.supervise_untaped
  | stop => exact s.stop_untaped
  | alter change =>
      exact congrArg (fun player => { s.untaped with player }) (player (.alter change))

end StandbyStream.Station
