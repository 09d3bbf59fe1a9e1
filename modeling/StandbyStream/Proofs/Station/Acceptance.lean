import StandbyStream.Proofs.Config.Check
import StandbyStream.Proofs.Engine.Factories
import StandbyStream.Proofs.Player.Situation
import StandbyStream.Proofs.Station.Refusal
import StandbyStream.Proofs.Station.Turn

/-!
# Starts that are accepted

Where nothing else stands in the way of a pipeline, a start is refused exactly if the held pipeline
has been started (`Station.refuses_iff`). Such a pipeline plays, or its loop has ended by itself and
nobody has stopped the stream since. In the second case the state is `stopped`, and the start is
refused all the same, with the fault of a stream that plays (`Station.command_of_run`).
-/

namespace StandbyStream

variable {ρ π : Type}

namespace Player

variable {p : Player ρ π}

/-- A pipeline that has been started has a loop, which runs or has ended. -/
theorem isStarted_iff : p.isStarted = true ↔ p.loopRuns = true ∨ p.loopEnded = true := by
  cases hh : p.held with
  | none => simp [isStarted, loopRuns, loopEnded, hh]
  | some held =>
      cases hr : held.running with
      | none => simp [isStarted, loopRuns, loopEnded, hh, hr]
      | some running =>
          simp only [isStarted, loopRuns, loopEnded, hh, hr, Option.any_some, Option.isSome_some,
            true_iff, bne_iff_ne, beq_iff_eq]
          exact (em _).symm

variable [MediaEngine ρ π]

/-- A player refuses to build as long as its pipeline is started. -/
theorem build_of_started (h : p.isStarted = true) (request : BuildRequest) :
    p.build request = (.error .playing, p) := by
  rw [build.eq_def, if_pos (.inl h)]

end Player

namespace Station

/-- A graph is built for parameters within their bounds whose address is a destination. -/
theorem build_request (s : Station ρ π) {p : Parameters} (hp : p.InBounds)
    {destination : Destination} (hd : Destination.parse p.address = .ok destination) :
    Topology.build (s.request p) = .ok (.assemble (s.request p) destination) :=
  Topology.build_eq_ok.2 ⟨⟨hp.width.1, hp.height.1, hp.fps.1⟩, destination, hd, rfl⟩

variable [MediaEngine ρ π]

/-- The player of a station, whatever it has gone through, has gone through turns of its own. -/
theorem player_of_run (engine : ρ) (settings : StationSettings) (turns : List (Turn ρ)) :
    ∃ turns' : List (Player.Turn ρ),
      ((new engine settings : Station ρ π).after turns).player =
        (Player.new engine settings.player).after turns' := by
  let fresh : Station (Tape ρ) (Taped π) := new (Tape.fresh engine) settings
  -- on a tape a station is known to pass turns on to its player
  obtain ⟨turns', hplayer⟩ := fresh.player_after turns
  refine ⟨turns', ?_⟩
  calc ((new engine settings : Station ρ π).after turns).player
      = (fresh.after (turns.map Turn.onTape)).player.untaped :=
        congrArg Station.player (fresh.after_untaped turns)
    _ = (fresh.player.after (turns'.map Player.Turn.onTape)).untaped := by rw [hplayer]
    _ = (Player.new engine settings.player).after turns' :=
        (fresh.player.after_untaped turns').symm

variable {s : Station ρ π}

theorem command_of_start {message : Bytes} {overrides : Overrides}
    (hm : Command.parse message = .ok (.start overrides)) :
    s.command message = s.checkAndStart (s.parameters.override overrides) := by
  rw [command.eq_def, hm]

theorem checkAndStart_of_started {p : Parameters} (hp : p.check = .ok ())
    (h : s.player.isStarted = true) :
    s.checkAndStart p = (.error (.build .playing), s) := by
  rw [checkAndStart.eq_def, hp]
  exact startWith_of_failed (Player.build_of_started h _)

theorem checkAndStart_of_free {p : Parameters} (hp : p.check = .ok ())
    (hd : ∃ destination, Destination.parse p.address = .ok destination)
    (complete : MakesAll s.player.engine) (free : s.player.isStarted = false)
    (quiet : s.player.state ≠ .playing) :
    ∃ player, s.player.build (s.request p) = (.ok (), player) ∧
      s.checkAndStart p = (.ok (), s.afterStart player p) := by
  obtain ⟨destination, hd⟩ := hd
  have ht := s.build_request (Parameters.check_eq_ok.1 hp) hd
  obtain ⟨hf, pipeline, engine, hi⟩ := complete _ _ ht
  have hb := Player.build_of_instantiate free quiet ht hf hi
  refine ⟨_, hb, ?_⟩
  rw [checkAndStart.eq_def, hp]
  exact startWith_of_built hb

/-- The message is answered by an error. -/
def Refuses (s : Station ρ π) (message : Bytes) : Prop :=
  ∃ fault, (s.command message).1 = .error fault

theorem refuses_of_started {message : Bytes} {overrides : Overrides}
    (hm : Command.parse message = .ok (.start overrides))
    (hp : (s.parameters.override overrides).check = .ok ()) (h : s.player.isStarted = true) :
    s.Refuses message := by
  rw [Refuses, command_of_start hm, checkAndStart_of_started hp h]
  exact ⟨_, rfl⟩

/-- Where nothing else stands in the way, a command to start is refused exactly if the pipeline has
been started. -/
theorem refuses_iff {message : Bytes} {overrides : Overrides}
    (hm : Command.parse message = .ok (.start overrides))
    (hp : (s.parameters.override overrides).check = .ok ())
    (hd : ∃ destination,
      Destination.parse (s.parameters.override overrides).address = .ok destination)
    (complete : MakesAll s.player.engine)
    (quiet : s.player.isStarted = false → s.player.state ≠ .playing) :
    s.Refuses message ↔ s.player.isStarted = true := by
  constructor
  · rintro ⟨fault, hf⟩
    cases free : s.player.isStarted with
    | true => rfl
    | false =>
        obtain ⟨player, -, ha⟩ := checkAndStart_of_free hp hd complete free (quiet free)
        rw [command_of_start hm, ha] at hf
        cases hf
  · exact refuses_of_started hm hp

/-- The pipeline of a station has been started exactly if the state is `playing` or the loop has
ended, and then the state is `stopped`. -/
theorem isStarted_of_run (engine : ρ) (settings : StationSettings) (turns : List (Turn ρ)) :
    let s : Station ρ π := (new engine settings).after turns
    (s.player.isStarted = true ↔ s.snapshot.state = .playing ∨ s.player.loopEnded = true) ∧
      (s.player.loopEnded = true → s.snapshot.state = .stopped) := by
  intro s
  obtain ⟨turns', hplayer⟩ := player_of_run (π := π) engine settings turns
  have hview := Player.view_of_run (π := π) engine settings.player turns'
  rw [← hplayer] at hview
  obtain ⟨-, hruns, hended, -⟩ := hview
  have hruns : s.snapshot.state = .playing ↔ s.player.loopRuns = true := hruns
  refine ⟨?_, hended⟩
  rw [Player.isStarted_iff, hruns]

/-- A command to start that nothing else stands in the way of is refused, in whatever state a
station has come to, if the stream plays or its loop has ended by itself, and then it changes
nothing; otherwise it starts the stream. A loop that has ended shows the state `stopped`. So to be
refused means that the stream plays, as long as no loop has ended, and only then. -/
theorem command_of_run (engine : ρ) (settings : StationSettings) (turns : List (Turn ρ)) :
    let s : Station ρ π := (new engine settings).after turns
    MakesAll s.player.engine →
    ∀ message overrides, Command.parse message = .ok (.start overrides) →
      let p := s.parameters.override overrides
      p.check = .ok () → (∃ destination, Destination.parse p.address = .ok destination) →
      (s.snapshot.state = .playing ∨ s.player.loopEnded = true →
        s.command message = (.error (.build .playing), s)) ∧
      (¬ (s.snapshot.state = .playing ∨ s.player.loopEnded = true) →
        ∃ player, s.player.build (s.request p) = (.ok (), player) ∧
          s.command message = (.ok (), s.afterStart player p)) ∧
      (s.player.loopEnded = true → s.snapshot.state = .stopped) ∧
      ((s.Refuses message ↔ s.snapshot.state = .playing) ↔ s.player.loopEnded = false) := by
  intro s complete message overrides hm p hp hd
  obtain ⟨hstarted, hended⟩ : (s.player.isStarted = true ↔
      s.snapshot.state = .playing ∨ s.player.loopEnded = true) ∧
        (s.player.loopEnded = true → s.snapshot.state = .stopped) :=
    isStarted_of_run engine settings turns
  have quiet : s.player.isStarted = false → s.player.state ≠ .playing := by
    intro free hs
    rw [hstarted.2 (.inl hs)] at free
    cases free
  refine ⟨?_, ?_, hended, ?_⟩
  · intro h
    rw [command_of_start hm]
    exact checkAndStart_of_started hp (hstarted.2 h)
  · intro h
    have free : s.player.isStarted = false := by
      rw [← Bool.not_eq_true, hstarted]
      exact h
    rw [command_of_start hm]
    exact checkAndStart_of_free hp hd complete free (quiet free)
  · rw [refuses_iff hm hp hd complete quiet, hstarted]
    constructor
    · intro h
      cases he : s.player.loopEnded with
      | false => rfl
      | true =>
          -- the refusal would mean that the stream plays, but it shows that it is stopped
          have playing := h.1 (.inr he)
          rw [hended he] at playing
          cases playing
    · intro he
      simp [he]

/-- What a station with a recorder without faults has come to. -/
def faultless (turns : List (Turn Recorder)) : Station Recorder Nat :=
  (new (.withFaults .none) ⟨⟨.h264, 640, 480, 25, 1000, "udp://h:1"⟩, true, true, ⟨0, 4⟩⟩).after
    turns

/-- The stream has been started, and has ended by itself. -/
def endedByItself : List (Turn Recorder) :=
  [.action .start, .action (.post .endOfStream)]

theorem command_of_faultless :
    (∃ s, (faultless []).command startMessage = (.ok (), s)) ∧
      (faultless endedByItself).command startMessage =
        (.error (.build .playing), faultless endedByItself) ∧
      (faultless endedByItself).snapshot.state = .stopped := by
  have hm : Command.parse startMessage = .ok (.start .none) := by decide +kernel
  have hd : ∃ destination, Destination.parse "udp://h:1" = .ok destination :=
    ⟨.udp "h" 1, by decide +kernel⟩
  have ended : (faultless endedByItself).player.loopEnded = true := by decide +kernel
  have free : ¬ ((faultless []).snapshot.state = .playing ∨
      (faultless []).player.loopEnded = true) := by decide +kernel
  obtain ⟨-, haccepted, -⟩ := command_of_run (.withFaults .none : Recorder)
    ⟨⟨.h264, 640, 480, 25, 1000, "udp://h:1"⟩, true, true, ⟨0, 4⟩⟩ []
    (Recorder.makesAll rfl) startMessage .none hm (by decide +kernel) hd
  obtain ⟨hrefused, -, hstopped, -⟩ := command_of_run (.withFaults .none : Recorder)
    ⟨⟨.h264, 640, 480, 25, 1000, "udp://h:1"⟩, true, true, ⟨0, 4⟩⟩ endedByItself
    (Recorder.makesAll (by decide +kernel)) startMessage .none hm (by decide +kernel) hd
  obtain ⟨player, -, ha⟩ := haccepted free
  exact ⟨⟨_, ha⟩, hrefused (.inr ended), hstopped ended⟩

/-- That a start is refused does not mean that the stream plays: one that has ended by itself is
refused, with the fault of a stream that plays, although its state is `stopped`. -/
theorem refused_although_stopped :
    let s := faultless endedByItself
    (MakesAll s.player.engine ∧ Command.parse startMessage = .ok (.start .none) ∧
      (s.parameters.override .none).check = .ok () ∧
      ∃ destination, Destination.parse (s.parameters.override .none).address = .ok destination) ∧
    ((s.command startMessage).1 = .error (.build .playing) ∧ s.snapshot.state = .stopped) ∧
    ¬ (s.Refuses startMessage ↔ s.snapshot.state = .playing) := by
  intro s
  have hm : Command.parse startMessage = .ok (.start .none) := by decide +kernel
  have hp : (s.parameters.override .none).check = .ok () := by decide +kernel
  have hstarted : s.player.isStarted = true := by decide +kernel
  have hstopped : s.snapshot.state = .stopped := by decide +kernel
  refine ⟨⟨Recorder.makesAll ?_, hm, hp, .udp "h" 1, ?_⟩, ⟨?_, hstopped⟩, ?_⟩
  · decide +kernel
  · decide +kernel
  · rw [command_of_start hm, checkAndStart_of_started hp hstarted]
  · intro h
    have playing := h.1 (refuses_of_started hm hp hstarted)
    rw [hstopped] at playing
    cases playing

end Station

end StandbyStream
