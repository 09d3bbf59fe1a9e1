import StandbyStream.Engine.Simulator
import StandbyStream.Frame
import StandbyStream.Log
import StandbyStream.Player
import StandbyStream.Program

/-!
# The demonstration

A program that plays one live stream on the simulator. A producer submits
frames at the frame rate and goes silent, and the stream is stopped a while
later.
-/

namespace StandbyStream.Demo

/-! ## Arguments -/

/-- The arguments of the demonstration. -/
def grammar : CommandLine.Grammar where
  options :=
    [ ⟨"frames", .word, none⟩,
      ⟨"fps", .word, none⟩,
      ⟨"encoding", .text, none⟩,
      ⟨"address", .text, none⟩,
      ⟨"pull-timeout-ms", .natural, none⟩,
      ⟨"linger-secs", .natural, none⟩ ]
  hasVersion := true
  subcommands := []

/-- What is to be shown. -/
structure Options where
  /-- Number of frames until the producer goes silent. -/
  frames : Nat
  fps : UInt32
  encoding : String
  address : String
  /-- Longest wait for a frame, in milliseconds. -/
  pullTimeout : Nat
  /-- Seconds until the stream is stopped. -/
  linger : Nat
  deriving DecidableEq, Repr

/-- Reads the arguments. -/
def Options.read (args : List String) : Except CommandLine.Halt Options :=
  (CommandLine.read grammar .empty args).map fun reading =>
    { frames := (reading.values.number? "frames").getD 50
      fps := (reading.values.word? "fps").getD 25
      encoding := (reading.values.text? "encoding").getD "H264"
      address := (reading.values.text? "address").getD "udp://127.0.0.1:5600"
      pullTimeout := (reading.values.number? "pull-timeout-ms").getD 500
      linger := (reading.values.number? "linger-secs").getD 2 }

/-! ## Playing -/

/-- Why nothing is shown. -/
inductive Fault where
  | noFps
  | encoding (cause : Encoding.Unknown)
  | build (cause : Player.BuildFault)
  | start (cause : Player.StartFault)
  deriving DecidableEq, Repr

/-- The messages of a fault, outermost first. -/
def Fault.chain : Fault → List String
  | .noFps => ["--fps must be greater than zero"]
  | .encoding cause => Explains.chain cause
  | .build cause => cause.chain
  | .start cause => Explains.chain cause

instance : Explains Fault where
  chain := Fault.chain

/-- The build request for the options. -/
def request (options : Options) (encoding : Encoding) : BuildRequest :=
  { mode := .live
    encoding
    width := 640
    height := 480
    fps := options.fps
    bitrate := 1000000
    address := options.address
    tlsValidation := false }

/-- A player whose stream has been started. -/
def play (options : Options) : Except Fault (Player Simulator SimPipeline) := do
  if options.fps = 0 then throw .noFps
  let player := Player.new Simulator.flawless ⟨options.pullTimeout, FrameQueue.defaultCapacity⟩
  let encoding ← (Encoding.parse options.encoding).mapError .encoding
  let player ← match player.build (request options encoding) with
    | (.ok (), player) => pure player
    | (.error cause, _) => throw (.build cause)
  match player.start with
  | (.ok (), player) => return player
  | (.error cause, _) => throw (.start cause)

/-- Length of a payload in bytes. -/
def payloadLength : Nat := 1024

/-- The frame of a number, at the time when it is due. -/
def frame (options : Options) (n : Nat) : Frame :=
  ⟨UInt64.ofNat (n * (1000000000 / options.fps.toNat)),
    List.replicate payloadLength (UInt8.ofNat n)⟩

/-- The player after frames have been submitted. -/
def produce (options : Options) (player : Player Simulator SimPipeline) :
    Player Simulator SimPipeline :=
  Nat.fold options.frames (fun n _ player => player.submit (frame options n)) player

/-- How the demonstration ended, what it said, and the queue of its stream at the end. -/
structure Outcome where
  ending : Ending
  log : List LogEntry
  queue : Option FrameQueue

/-- Shows a stream from start to stop. -/
def run (args : List String) : Outcome :=
  match Options.read args with
  | .error reason => ⟨.halted reason, [], none⟩
  | .ok options =>
    match play options with
    | .error cause => ⟨.ofFailure cause, [], none⟩
    | .ok player =>
      let silence : LogEntry :=
        ⟨.info, "producer went silent after " ++ toString options.frames ++ " frames"⟩
      ⟨.done, [silence], some (produce options player).stop.queue⟩

end StandbyStream.Demo
