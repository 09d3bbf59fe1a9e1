import StandbyStream.Command
import StandbyStream.Player

/-!
# The station

A player under command: starts and stops arrive as messages, frames as chunks,
and a stream whose loop has ended without a stop is started again.
-/

namespace StandbyStream

/-- How a station begins. -/
structure StationSettings where
  parameters : Parameters
  /-- Frames will be handed in. -/
  liveInput : Bool
  /-- Whether the certificate of a server is checked. -/
  tlsValidation : Bool
  player : PlayerSettings
  deriving DecidableEq, Repr

/-- A player with the parameters of its stream. -/
structure Station (ρ π : Type) where
  player : Player ρ π
  parameters : Parameters
  liveInput : Bool
  tlsValidation : Bool
  /-- A start has succeeded since the last stop. -/
  started : Bool
  /-- A stop has been asked for since the last start. -/
  stopRequested : Bool

namespace Station

variable {ρ π : Type} [MediaEngine ρ π]

/-- A station that has not streamed yet, once there is room for its queue. -/
def new (engine : ρ) (settings : StationSettings) : Station ρ π :=
  ⟨.new engine settings.player, settings.parameters, settings.liveInput, settings.tlsValidation,
    false, false⟩

/-- Makes a station that has not streamed yet, if there is room for its queue. -/
def make (memory : Memory) (engine : ρ) (settings : StationSettings) :
    Except Memory.Shortage (Station ρ π) :=
  (Player.make memory engine settings.player).map fun player =>
    { (new engine settings : Station ρ π) with player }

/-! ## Start and stop -/

/-- Why a station refused to start. -/
inductive Fault where
  | command (cause : Command.Fault)
  | parameters (cause : Parameters.Fault)
  | build (cause : Player.BuildFault)
  | start (cause : Player.StartFault)
  deriving DecidableEq, Repr

/-- The messages of a fault, outermost first. -/
def Fault.chain : Fault → List String
  | .command cause => cause.chain
  | .parameters cause => ["invalid stream parameters", cause.message]
  | .build cause => cause.chain
  | .start cause => Explains.chain cause

instance : Explains Fault where
  chain := Fault.chain

/-- The build request for parameters. -/
def request (s : Station ρ π) (p : Parameters) : BuildRequest :=
  { mode := if s.liveInput then .live else .fallbackOnly
    encoding := p.encoding
    width := p.width
    height := p.height
    fps := p.fps
    bitrate := p.bitrate
    address := p.address
    tlsValidation := s.tlsValidation }

/-- Builds and starts a stream; its parameters are kept once it runs. -/
def startWith (s : Station ρ π) (p : Parameters) : Except Fault Unit × Station ρ π :=
  match s.player.build (s.request p) with
  | (.error cause, player) => (.error (.build cause), { s with player })
  | (.ok (), player) =>
    match player.start with
    | (.error cause, player) => (.error (.start cause), { s with player })
    | (.ok (), player) =>
      (.ok (), { s with player, parameters := p, started := true, stopRequested := false })

/-- Starts a stream whose parameters are in bounds. -/
def checkAndStart (s : Station ρ π) (p : Parameters) : Except Fault Unit × Station ρ π :=
  match p.check with
  | .error cause => (.error (.parameters cause), s)
  | .ok () => s.startWith p

/-- Starts the stream with the parameters at hand. -/
def start (s : Station ρ π) : Except Fault Unit × Station ρ π :=
  s.checkAndStart s.parameters

/-- Stops the stream; it is not started again by itself. -/
def stop (s : Station ρ π) : Station ρ π :=
  { s with player := s.player.stop, started := false, stopRequested := true }

/-! ## Messages -/

/-- Carries out a command message. -/
def command (s : Station ρ π) (message : Bytes) : Except Fault Unit × Station ρ π :=
  match Command.parse message with
  | .error cause => (.error (.command cause), s)
  | .ok (.start overrides) => s.checkAndStart (s.parameters.override overrides)
  | .ok .stop => (.ok (), s.stop)

/-- Hands in the frame of a chunk. -/
def chunk (s : Station ρ π) (raw : Bytes) : Except Frame.TooShort Unit × Station ρ π :=
  match Frame.ofWire raw with
  | .error cause => (.error cause, s)
  | .ok frame => (.ok (), { s with player := s.player.submit frame })

/-! ## Supervision -/

/-- What a look at the stream led to. -/
inductive Supervision where
  | idle
  | restarted
  deriving DecidableEq, Repr

/-- The stream was started, was not stopped, and its loop has ended. -/
def needsRestart (s : Station ρ π) : Bool :=
  s.started && !s.stopRequested && s.player.loopEnded

/-- Starts a stream again whose loop has ended by itself. -/
def supervise (s : Station ρ π) : Except Fault Supervision × Station ρ π :=
  if s.needsRestart then
    match ({ s with player := s.player.stop } : Station ρ π).startWith s.parameters with
    | (.ok (), s) => (.ok .restarted, s)
    | (.error cause, s) => (.error cause, s)
  else (.ok .idle, s)

/-- The published view. -/
def snapshot (s : Station ρ π) : Snapshot :=
  s.player.snapshot

end Station

end StandbyStream
