import StandbyStream.Station
import StandbyStream.Proofs.Player.Run

/-!
# Actions on a station

What can be done to a station is an `Action`. A start, by command or not,
ends in one of the three ways of `StartEnd`, a supervision in one of the three of `SupervisionEnd`:
after a build that succeeded a start cannot fail.
-/

namespace StandbyStream

variable {ρ π : Type}

namespace Station

/-! ## Actions -/

/-- What can be done to a station. -/
inductive Action (ρ : Type) where
  | command (message : Bytes)
  | start
  | chunk (raw : Bytes)
  | submit (frame : Frame)
  | post (event : Event)
  | supervise
  | stop
  /-- The engine is changed from outside: its faults come and go. -/
  | alter (change : ρ → ρ)

variable [MediaEngine ρ π]

/-- The station after an action. -/
def act (s : Station ρ π) : Action ρ → Station ρ π
  | .command message => (s.command message).2
  | .start => s.start.2
  | .chunk raw => (s.chunk raw).2
  | .submit frame => { s with player := s.player.submit frame }
  | .post event => { s with player := (s.player.post event).2 }
  | .supervise => s.supervise.2
  | .stop => s.stop
  | .alter change => { s with player := s.player.alter change }

/-! ## Starts -/

/-- The station whose stream has been started with the pipeline of a player. -/
def afterStart (s : Station ρ π) (player : Player ρ π) (p : Parameters) : Station ρ π :=
  { s with player := player.start.2, parameters := p, started := true, stopRequested := false }

/-- How a start ends. -/
inductive StartEnd (s : Station ρ π) : Except Fault Unit × Station ρ π → Prop
  /-- The message or the parameters are not in order: nothing happens. -/
  | refused (cause : Fault) : StartEnd s (.error cause, s)
  | failed {p : Parameters} {cause : Player.BuildFault} {player : Player ρ π}
      (h : s.player.build (s.request p) = (.error cause, player)) :
      StartEnd s (.error (.build cause), { s with player })
  | started {p : Parameters} {player : Player ρ π}
      (h : s.player.build (s.request p) = (.ok (), player)) :
      StartEnd s (.ok (), s.afterStart player p)

theorem startWith_of_failed {s : Station ρ π} {p : Parameters} {cause : Player.BuildFault}
    {player : Player ρ π} (h : s.player.build (s.request p) = (.error cause, player)) :
    s.startWith p = (.error (.build cause), { s with player }) := by
  rw [startWith.eq_def, h]

theorem startWith_of_built {s : Station ρ π} {p : Parameters} {player : Player ρ π}
    (h : s.player.build (s.request p) = (.ok (), player)) :
    s.startWith p = (.ok (), s.afterStart player p) := by
  rw [startWith.eq_def, h]
  simp only
  rw [(Player.start_of_built h).1]
  rfl

theorem checkAndStart_end (s : Station ρ π) (p : Parameters) : StartEnd s (s.checkAndStart p) := by
  rw [checkAndStart.eq_def]
  cases p.check with
  | error cause => exact .refused _
  | ok _ =>
      cases hb : s.player.build (s.request p) with
      | mk answer player =>
          cases answer with
          | error cause =>
              simp only [startWith_of_failed hb]
              exact .failed hb
          | ok _ =>
              simp only [startWith_of_built hb]
              exact .started hb

theorem start_end (s : Station ρ π) : StartEnd s s.start :=
  checkAndStart_end s s.parameters

/-- A command is a stop or ends as a start does. -/
theorem command_end (s : Station ρ π) (message : Bytes) :
    (Command.parse message = .ok .stop ∧ s.command message = (.ok (), s.stop)) ∨
      (Command.parse message ≠ .ok .stop ∧ StartEnd s (s.command message)) := by
  rw [command.eq_def]
  cases hm : Command.parse message with
  | error cause => exact .inr ⟨nofun, .refused _⟩
  | ok c =>
      cases c with
      | start overrides => exact .inr ⟨nofun, checkAndStart_end s _⟩
      | stop => exact .inl ⟨rfl, rfl⟩

/-! ## Supervision -/

/-- How a supervision ends. -/
inductive SupervisionEnd (s : Station ρ π) : Except Fault Supervision × Station ρ π → Prop
  | idle (h : s.needsRestart = false) : SupervisionEnd s (.ok .idle, s)
  | failed {cause : Player.BuildFault} {player : Player ρ π} (needed : s.needsRestart = true)
      (h : s.player.stop.build (s.request s.parameters) = (.error cause, player)) :
      SupervisionEnd s (.error (.build cause), { s with player })
  | restarted {player : Player ρ π} (needed : s.needsRestart = true)
      (h : s.player.stop.build (s.request s.parameters) = (.ok (), player)) :
      SupervisionEnd s (.ok .restarted, s.afterStart player s.parameters)

theorem supervision_end (s : Station ρ π) : SupervisionEnd s s.supervise := by
  rw [supervise.eq_def]
  split
  · next needed =>
      cases hb : s.player.stop.build (s.request s.parameters) with
      | mk answer player =>
          cases answer with
          | error cause =>
              rw [startWith_of_failed hb]
              exact .failed needed hb
          | ok _ =>
              rw [startWith_of_built hb]
              exact .restarted needed hb
  · next h => exact .idle (by simpa using h)

end Station

end StandbyStream
