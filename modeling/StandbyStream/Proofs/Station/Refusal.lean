import StandbyStream.Proofs.Station.Ledger

/-!
# Starts that fail

A start that fails, by command or not, leaves a station as it was (`errors_of_run`). A build gives
an unstarted pipeline up before it can fail, but between two turns a station never holds one: what
it holds has been started, and then the build is refused (`Standing.player_of_failed`).
-/

namespace StandbyStream.Station

variable {ρ π : Type} [MediaEngine ρ π]

/-- The station is as before, no pipeline has been called, and all that the engine may have seen is
an attempt to make a pipeline. -/
structure Untouched (s s' : Station (Tape ρ) (Taped π)) : Prop where
  same : s' = { s with player := { s.player with engine := s'.player.engine } }
  uncalled : s'.player.engine.log = s.player.engine.log
  attempt : s'.player.engine.engine = s.player.engine.engine ∨
    ∃ t cause, MediaEngine.instantiate t s.player.engine.engine =
      (.error cause, s'.player.engine.engine)

theorem StartEnd.untouched {ledger : Ledger} {s s' : Station (Tape ρ) (Taped π)} {fault : Fault}
    (h : Standing ledger s) (hend : StartEnd s (.error fault, s')) : s.Untouched s' := by
  cases hend with
  | refused => exact ⟨rfl, rfl, .inl rfl⟩
  | @failed p cause player hb =>
      obtain ⟨same, hengine⟩ := h.player_of_failed hb
      have hs : ({ s with player } : Station (Tape ρ) (Taped π)) =
          { s with player := { s.player with engine := player.engine } } :=
        congrArg (fun player => { s with player }) same
      rcases hengine with hengine | ⟨t, fault, hi⟩
      · exact ⟨hs, congrArg Tape.log hengine, .inl (congrArg Tape.engine hengine)⟩
      · obtain ⟨hlog, hi'⟩ := Tape.of_failed hi
        exact ⟨hs, hlog, .inr ⟨t, fault, hi'⟩⟩

/-- In whatever state a station has come to, a command or a start that is answered by an error
leaves it untouched. On a tape the station does the same as off it. -/
theorem errors_of_run (engine : ρ) (settings : StationSettings) (turns : List (Turn ρ)) :
    let s : Station (Tape ρ) (Taped π) :=
      (new (Tape.fresh engine) settings).after (turns.map Turn.onTape)
    s.untaped = (new engine settings).after turns ∧
      (∀ (message : Bytes) (fault : Fault) (s' : Station (Tape ρ) (Taped π)),
        s.command message = (.error fault, s') → s.Untouched s') ∧
      ∀ (fault : Fault) (s' : Station (Tape ρ) (Taped π)),
        s.start = (.error fault, s') → s.Untouched s' := by
  intro s
  let fresh : Station (Tape ρ) (Taped π) := new (Tape.fresh engine) settings
  have h := (Standing.new (Tape.fresh engine) settings : Standing _ fresh).after
    (turns.map Turn.onTape)
  refine ⟨(fresh.after_untaped turns).symm, ?_, ?_⟩
  · intro message fault s' hc
    rcases s.command_end message with ⟨-, hstop⟩ | ⟨-, hend⟩
    · rw [hstop] at hc
      cases hc
    · rw [hc] at hend
      exact hend.untouched h
  · intro fault s' hs
    have hend := s.start_end
    rw [hs] at hend
    exact hend.untouched h

/-- No frame comes in time, the stream is stopped, and then the engine is busy. -/
def busyTurns : List (Turn Recorder) :=
  [.action .start, .action (.post .needData), .expiry, .action .stop,
    .action (.alter fun recorder =>
      { recorder with faults := { RecorderFaults.none with instantiate := some "busy" } })]

/-- A station whose engine has become busy, on a tape. -/
def busyStation : Station (Tape Recorder) (Taped Nat) :=
  (new (Tape.fresh (.withFaults .none))
    ⟨⟨.h264, 640, 480, 25, 1000, "udp://h:1"⟩, true, true, ⟨2000, 4⟩⟩).after
      (busyTurns.map Turn.onTape)

/-- The bytes of the command to start with the parameters at hand. -/
def startMessage : Bytes :=
  [123, 34, 67, 111, 109, 109, 97, 110, 100, 34, 58, 34, 115, 116, 97, 114, 116, 34, 125]

theorem errors_of_busyStation :
    (∃ fault s', busyStation.command startMessage = (.error fault, s') ∧
      busyStation.Untouched s') ∧
    ∃ fault s', busyStation.start = (.error fault, s') ∧ busyStation.Untouched s' := by
  obtain ⟨-, hcommand, hstart⟩ := errors_of_run (.withFaults .none : Recorder)
    ⟨⟨.h264, 640, 480, 25, 1000, "udp://h:1"⟩, true, true, ⟨2000, 4⟩⟩ busyTurns
  have hc : (busyStation.command startMessage).1.isOk = false := by decide +kernel
  have hs : busyStation.start.1.isOk = false := by decide +kernel
  constructor
  · rcases h : busyStation.command startMessage with ⟨fault | _, s'⟩
    · exact ⟨fault, s', rfl, hcommand _ fault s' h⟩
    · rw [h] at hc
      cases hc
  · rcases h : busyStation.start with ⟨fault | _, s'⟩
    · exact ⟨fault, s', rfl, hstart fault s' h⟩
    · rw [h] at hs
      cases hs

end StandbyStream.Station
