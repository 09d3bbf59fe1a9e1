import StandbyStream.Proofs.Frame.Wire
import StandbyStream.Proofs.Player.Intake
import StandbyStream.Proofs.Station.Acceptance

/-!
# Chunks

A chunk is refused, and nothing happens, or it is what one frame is written as, and this frame is
handed to the player (`Station.chunk_of_frame`). What the player makes of it depends on whether a
pull has been waiting for a frame (`Player.TakesIn`); nothing else of the station is touched
(`Station.chunk_of_run`).
-/

namespace StandbyStream.Station

variable {ρ π : Type} [MediaEngine ρ π]

/-! ## Single chunks -/

theorem chunk_of_le (s : Station ρ π) {raw : Bytes} (h : raw.length ≤ Frame.headerLength) :
    s.chunk raw = (.error ⟨raw.length⟩, s) := by
  rw [chunk.eq_def, Frame.ofWire_of_le h]

theorem chunk_of_frame (s : Station ρ π) {raw : Bytes} {frame : Frame}
    (h : Frame.ofWire raw = .ok frame) :
    s.chunk raw = (.ok (), { s with player := s.player.submit frame }) := by
  rw [chunk.eq_def, h]

/-- A message that is long enough is what exactly one frame with a payload is written as, and this
frame is handed to the player. -/
theorem chunk_of_lt (s : Station ρ π) {raw : Bytes} (h : Frame.headerLength < raw.length) :
    ∃ frame : Frame,
      (∀ other : Frame, other.payload ≠ [] ∧ other.toWire = raw ↔ other = frame) ∧
      s.chunk raw = (.ok (), { s with player := s.player.submit frame }) := by
  obtain ⟨frame, hframe⟩ := Frame.exists_ofWire h
  refine ⟨frame, fun other => ?_, s.chunk_of_frame hframe⟩
  rw [← Frame.ofWire_eq_ok, hframe, Except.ok.injEq, eq_comm]

/-! ## Stations at rest -/

/-- Whatever a station has gone through, its player is at rest, and its loop is not told to quit. -/
theorem atRest_of_run (hturn : RaisesInTurn ρ) (engine : ρ) (settings : StationSettings)
    (turns : List (Turn ρ)) :
    let s : Station ρ π := (new engine settings).after turns
    s.player.AtRest ∧ s.player.Unasked := by
  intro s
  obtain ⟨turns', hplayer⟩ := player_of_run (π := π) engine settings turns
  have hplayer : s.player = (Player.new engine settings.player).after turns' := hplayer
  have hunasked : (Player.new engine settings.player : Player ρ π).Unasked :=
    fun hn => absurd rfl hn
  rw [hplayer]
  exact ⟨(Player.AtRest.of_unstarted rfl).after hturn turns', hunasked.after turns'⟩

/-- Frames with a payload and messages of more than eight bytes correspond, by writing the one and
reading the other. Any other message is refused by a station in whatever state, and nothing happens.
A message that is a frame is submitted as the one frame that is written so, and nothing else is
done to the station: the frame goes through the queue of the player, and the loop takes note. Where
no pull has been waiting, the queue is all that changes. Where one has, it delivers the frame, in
one call that is the only one, after which the queue is empty, and the events that have been waiting
behind it are heard; nothing follows a delivery that was refused, and if no event has been waiting,
no more than the next demand of the pipeline follows one that was not. This holds whatever the
station has gone through before, for an engine whose pipelines wait for an answer to each demand
before they raise the next, as those of the recorder and of the simulator do. -/
theorem chunk_of_run :
    ((∀ frame : Frame, frame.payload ≠ [] → Frame.ofWire frame.toWire = .ok frame) ∧
      (∀ (raw : Bytes) (frame : Frame), Frame.ofWire raw = .ok frame →
        frame.payload ≠ [] ∧ frame.toWire = raw) ∧
      (∀ raw : Bytes, (∃ frame, Frame.ofWire raw = .ok frame) ↔ 8 < raw.length)) ∧
    (∀ (s : Station ρ π) (raw : Bytes),
      (raw.length ≤ 8 → s.chunk raw = (.error ⟨raw.length⟩, s)) ∧
      (8 < raw.length → ∃ frame : Frame,
        (∀ other : Frame, other.payload ≠ [] ∧ other.toWire = raw ↔ other = frame) ∧
        s.chunk raw = (.ok (), { s with player := s.player.submit frame }) ∧
        s.player.submit frame =
          ({ s.player with queue := (s.player.queue.push frame).2 } : Player ρ π).settle)) ∧
    (RaisesInTurn ρ → ∀ (engine : ρ) (settings : StationSettings) (turns : List (Turn ρ))
        (frame : Frame),
      let s : Station ρ π := (new engine settings).after turns
      s.player.TakesIn frame (s.player.submit frame)) ∧
    (RaisesInTurn ρ → ∀ (engine : ρ) (settings : StationSettings) (turns : List (Turn ρ))
        (frame : Frame),
      let s : Station (Tape ρ) (Taped π) :=
        (new (.fresh engine) settings).after (turns.map Turn.onTape)
      s.untaped = (new engine settings).after turns ∧
      (s.player.waits = false → (s.player.submit frame).engine.log = s.player.engine.log) ∧
      ∀ held running, s.player.held = some held → held.running = some running →
        running.phase = .pulling →
          (s.player.submit frame).engine.log =
            s.player.engine.log ++ Log.entries held.pipeline.number
              [(.push (running.feed.stamp frame),
                (MediaEngine.push (running.feed.stamp frame)
                  ⟨held.pipeline, s.player.engine⟩).1.isOk)] ∧
          (s.player.submit frame).queue = { (s.player.queue.push frame).2 with frames := [] }) ∧
    RaisesInTurn Recorder ∧ RaisesInTurn Simulator := by
  refine ⟨⟨?_, ?_, ?_⟩, ?_, ?_, ?_, Recorder.unprompted.raisesInTurn, Simulator.raisesInTurn⟩
  · intro frame hpayload
    exact Frame.ofWire_toWire hpayload
  · intro raw frame hframe
    exact Frame.ofWire_eq_ok.1 hframe
  · intro raw
    constructor
    · rintro ⟨frame, hframe⟩
      apply Nat.lt_of_not_le
      intro hle
      rw [Frame.ofWire_of_le hle] at hframe
      cases hframe
    · exact Frame.exists_ofWire
  · intro s raw
    refine ⟨s.chunk_of_le, fun hlt => ?_⟩
    obtain ⟨frame, hone, hchunk⟩ := s.chunk_of_lt hlt
    exact ⟨frame, hone, hchunk, rfl⟩
  · intro hturn engine settings turns frame s
    obtain ⟨hrests, hunasked⟩ : s.player.AtRest ∧ s.player.Unasked :=
      atRest_of_run hturn engine settings turns
    exact Player.takesIn_submit hrests hunasked frame
  · intro hturn engine settings turns frame s
    obtain ⟨hrests, hunasked⟩ : s.player.AtRest ∧ s.player.Unasked :=
      atRest_of_run hturn.onTape (.fresh engine) settings (turns.map Turn.onTape)
    refine ⟨(after_untaped _ turns).symm, ?_, ?_⟩
    · intro hw
      rw [Player.submit_of_no_wait hrests hw]
      rfl
    · intro held running hh hr on
      exact Player.log_submit_of_wait hrests hunasked hh hr on frame

/-- A station with a player that waits long for frames, whose stream has been started. -/
def patientSettings : StationSettings :=
  ⟨⟨.h264, 640, 480, 25, 1000, "udp://h:1"⟩, true, true, ⟨60000, 4⟩⟩

/-- The simulator has raised a demand by itself, and a pull waits. It delivers the frame of nine
bytes, which leaves the queue empty, the next demand is raised, and a pull waits again. Of eight
bytes nothing comes. -/
theorem chunk_of_waiting :
    let s : Station Simulator SimPipeline := (new .flawless patientSettings).after [.action .start]
    let taped : Station (Tape Simulator) (Taped SimPipeline) :=
      (new (.fresh .flawless) patientSettings).after [.action .start]
    let raw : Bytes := [0, 0, 0, 0, 0, 0, 0, 5, 9]
    (s.player.waits = true ∧ taped.untaped = s) ∧
    (∃ player, s.chunk raw = (.ok (), { s with player }) ∧ player.engine.live = [(0, 1)] ∧
      player.engine.demandRequests = 2 ∧ player.waits = true) ∧
    s.chunk (raw.take 8) = (.error ⟨8⟩, s) ∧
    (taped.player.submit ⟨5, [9]⟩).engine.log.callsOf 0 =
      [(.play, true), (.push ⟨0, [9]⟩, true)] ∧
    (taped.player.submit ⟨5, [9]⟩).queue =
      { (taped.player.queue.push ⟨5, [9]⟩).2 with frames := [] } := by
  intro s taped raw
  obtain ⟨-, hstation, -, htape, -, hturn⟩ := @chunk_of_run Simulator SimPipeline _
  obtain ⟨hshort, -⟩ := hstation s (raw.take 8)
  obtain ⟨-, hlong⟩ := hstation s raw
  obtain ⟨frame, hone, hchunk, -⟩ := hlong (by decide)
  obtain rfl : ⟨5, [9]⟩ = frame := (hone ⟨5, [9]⟩).1 (by decide +kernel)
  obtain ⟨huntaped, -, hcalls⟩ :=
    htape hturn .flawless patientSettings [.action .start] ⟨5, [9]⟩
  have hwaits : taped.player.waits = true := by decide +kernel
  obtain ⟨held, running, hh, hr, on⟩ := Player.exists_of_waits hwaits
  obtain ⟨-, hqueue⟩ := hcalls held running hh hr on
  refine ⟨⟨by decide +kernel, huntaped⟩, ⟨_, hchunk, ?_⟩, hshort (by decide), ?_, hqueue⟩
  · decide +kernel
  · decide +kernel

end StandbyStream.Station
