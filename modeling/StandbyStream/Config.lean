import StandbyStream.Config.File
import StandbyStream.Engine.Choice
import StandbyStream.Environment
import StandbyStream.Station
import StandbyStream.Topics

/-!
# Configuration

The settings of a station and its surroundings. A file gives them, variables of
the environment replace them, and then they are checked together.
-/

namespace StandbyStream

/-- The settings of a station and its surroundings; times are in milliseconds. -/
structure Config where
  stream : Parameters
  liveInput : Bool
  tlsValidation : Bool
  engine : EngineChoice
  pullTimeout : Nat
  queueCapacity : Nat
  statusInterval : Nat
  /-- Longest message with a video chunk, in bytes. -/
  maxChunk : UInt32
  topics : Topics
  deriving DecidableEq, Repr

namespace Config

/-- Why there is no configuration. -/
inductive Fault where
  | unreadable (path : String) (cause : FileFault)
  | malformed (path : String)
  | encoding (cause : Encoding.Unknown)
  | engine (cause : EngineChoice.Unknown)
  | notNumber (name : String)
  | notBoolean (name : String)
  | parameters (cause : Parameters.Fault)
  | destination (cause : Destination.Fault)
  | unsupported (cause : EngineChoice.Unsupported)
  | noPullTimeout
  | noQueueCapacity
  | noStatusInterval
  | noRoomForChunks
  | badTopic (role : Topics.Role) (topic : String)
  deriving DecidableEq, Repr

/-- The messages of a fault, outermost first. -/
def Fault.chain : Fault → List String
  | .unreadable path cause => ["failed to read config file " ++ path ++ ": " ++ cause.message]
  | .malformed path => ["invalid config file " ++ path]
  | .encoding cause => Explains.chain cause
  | .engine cause => Explains.chain cause
  | .notNumber name => [name ++ " must be a non-negative integer"]
  | .notBoolean name => [name ++ " must be a boolean"]
  | .parameters cause => [cause.message]
  | .destination cause => cause.chain
  | .unsupported cause => Explains.chain cause
  | .noPullTimeout => ["pull timeout must be greater than zero"]
  | .noQueueCapacity => ["queue capacity must be greater than zero"]
  | .noStatusInterval => ["status interval must be greater than zero"]
  | .noRoomForChunks =>
    ["max chunk size must exceed the " ++ toString Frame.headerLength ++ "-byte chunk header"]
  | .badTopic role topic => ["invalid " ++ role.name ++ " topic '" ++ topic ++ "'"]

instance : Explains Fault where
  chain := Fault.chain

/-! ## Defaults and files -/

/-- Where a stream goes unless something else is said. -/
def standardAddress : String :=
  "udp://127.0.0.1:5600"

/-- Longest wait for a frame unless something else is said. -/
def standardPullTimeout : Nat := 2000

/-- Time between two messages of the status unless something else is said. -/
def standardStatusInterval : Nat := 1000

/-- Reads a setting, or keeps what is there. -/
def orKeep {α β : Type} (old : α) (read : β → Except Fault α) : Option β → Except Fault α
  | some new => read new
  | none => .ok old

/-- Reads an encoding. -/
def readEncoding (name : String) : Except Fault Encoding :=
  (Encoding.parse name).mapError .encoding

/-- Reads the choice of an engine. -/
def readEngine (name : String) : Except Fault EngineChoice :=
  (EngineChoice.parse name).mapError .engine

/-- The settings of a file, completed by the defaults. -/
def ofFile (file : File) : Except Fault Config := do
  let standard := Parameters.initial
  let encoding ← orKeep standard.encoding readEncoding file.stream.encoding
  let engine ← orKeep default readEngine file.pipeline.engine
  return {
    stream :=
      { encoding
        width := file.stream.width.getD standard.width
        height := file.stream.height.getD standard.height
        fps := file.stream.fps.getD standard.fps
        bitrate := file.stream.bitrate.getD standard.bitrate
        address := file.stream.address.getD standardAddress }
    liveInput := file.stream.liveInput.getD true
    tlsValidation := file.stream.tlsValidation.getD false
    engine
    pullTimeout := file.pipeline.pullTimeout.getD standardPullTimeout
    queueCapacity := file.pipeline.queueCapacity.getD FrameQueue.defaultCapacity
    statusInterval := file.pipeline.statusInterval.getD standardStatusInterval
    maxChunk := file.pipeline.maxChunk.getD Frame.standardLimit
    topics :=
      { command := file.topics.command.getD Topics.standard.command
        video := file.topics.video.getD Topics.standard.video
        status := file.topics.status.getD Topics.standard.status } }

/-- Reads the file of the path. -/
def readFile (files : Files) (path : String) : Except Fault File :=
  match files path with
  | .error cause => .error (.unreadable path cause)
  | .ok bytes =>
    match Text.decodeUtf8? bytes with
    | none => .error (.unreadable path .notText)
    | some text =>
      match File.parse? path text with
      | none => .error (.malformed path)
      | some file => .ok file

/-! ## Environment -/

/-- Reads a number of a variable; a margin does not matter. -/
def readNumber {α : Type} (name : String) (read : String → Except Text.NumberError α)
    (value : String) : Except Fault α :=
  (read (Text.trim value)).mapError fun _ => .notNumber name

/-- Reads a truth value of a variable; margin and letter case do not matter. -/
def readBool (name : String) (value : String) : Except Fault Bool :=
  let word := Text.fold value
  if word ∈ ["1", "true", "yes", "on"] then .ok true
  else if word ∈ ["0", "false", "no", "off"] then .ok false
  else .error (.notBoolean name)

/-- The number of 32 bits that a variable holds, or what is there. -/
def word (env : Environment) (name : String) (old : UInt32) : Except Fault UInt32 :=
  orKeep old (readNumber name Text.readUInt32) (env.filled? name)

/-- The number of 64 bits that a variable holds, or what is there. -/
def natural (env : Environment) (name : String) (old : Nat) : Except Fault Nat :=
  orKeep old (readNumber name (Text.readNumber (Text.maxOfBits 64))) (env.filled? name)

/-- The truth value that a variable holds, or what is there. -/
def bool (env : Environment) (name : String) (old : Bool) : Except Fault Bool :=
  orKeep old (readBool name) (env.filled? name)

/-- The text that a variable holds, or what is there. -/
def text (env : Environment) (name : String) (old : String) : String :=
  (env.filled? name).getD old

/-- The settings with those replaced that variables hold. The first variable in this order that
cannot be read is reported. -/
def override (config : Config) (env : Environment) : Except Fault Config := do
  let address := text env "STREAMER_STREAM_ADDRESS" config.stream.address
  let encoding ← orKeep config.stream.encoding readEncoding (env.filled? "STREAMER_ENCODING")
  let width ← word env "STREAMER_WIDTH" config.stream.width
  let height ← word env "STREAMER_HEIGHT" config.stream.height
  let fps ← word env "STREAMER_FPS" config.stream.fps
  let bitrate ← word env "STREAMER_BITRATE" config.stream.bitrate
  let engine ← orKeep config.engine readEngine (env.filled? "STREAMER_BACKEND")
  let pullTimeout ← natural env "STREAMER_PULL_TIMEOUT_MS" config.pullTimeout
  let queueCapacity ← natural env "STREAMER_QUEUE_CAPACITY" config.queueCapacity
  let maxChunk ← word env "STREAMER_MAX_CHUNK_BYTES" config.maxChunk
  let liveInput ← bool env "STREAMER_LIVE_INPUT" config.liveInput
  let tlsValidation ← bool env "STREAMER_RTSP_TLS_VALIDATION" config.tlsValidation
  return {
    stream := { encoding, width, height, fps, bitrate, address }
    liveInput
    tlsValidation
    engine
    pullTimeout
    queueCapacity
    statusInterval := config.statusInterval
    maxChunk
    topics :=
      { command := text env "STREAMER_COMMAND_TOPIC" config.topics.command
        video := text env "STREAMER_VIDEO_TOPIC" config.topics.video
        status := text env "STREAMER_STATUS_TOPIC" config.topics.status } }

/-! ## Check -/

/-- A topic is not blank and stands for itself alone. -/
def checkTopic (topics : Topics) (role : Topics.Role) : Except Fault Unit :=
  let topic := topics.get role
  if Text.isAllBlank topic ∨ Topics.hasWildcard topic then .error (.badTopic role topic)
  else .ok ()

/-- Reports the first setting that does not do. -/
def check (config : Config) : Except Fault Unit := do
  config.stream.check.mapError .parameters
  let _ ← (Destination.parse config.stream.address).mapError .destination
  config.engine.checkSupport.mapError .unsupported
  if config.pullTimeout = 0 then throw .noPullTimeout
  if config.queueCapacity = 0 then throw .noQueueCapacity
  if config.statusInterval = 0 then throw .noStatusInterval
  if config.maxChunk.toNat ≤ Frame.headerLength then throw .noRoomForChunks
  checkTopic config.topics .command
  checkTopic config.topics .video
  checkTopic config.topics .status

/-- The variable that names the file. -/
def fileVariable : String :=
  "STREAMER_CONFIG"

/-- The variables that the configuration looks at. -/
def variableNames : List String :=
  [fileVariable, "STREAMER_STREAM_ADDRESS", "STREAMER_ENCODING", "STREAMER_WIDTH",
    "STREAMER_HEIGHT", "STREAMER_FPS", "STREAMER_BITRATE", "STREAMER_BACKEND",
    "STREAMER_PULL_TIMEOUT_MS", "STREAMER_QUEUE_CAPACITY", "STREAMER_MAX_CHUNK_BYTES",
    "STREAMER_LIVE_INPUT", "STREAMER_RTSP_TLS_VALIDATION", "STREAMER_COMMAND_TOPIC",
    "STREAMER_VIDEO_TOPIC", "STREAMER_STATUS_TOPIC"]

/-- The configuration of a program. -/
def load (files : Files) (env : Environment) : Except Fault Config := do
  let file ← match env.text? fileVariable with
    | some path => readFile files path
    | none => pure .empty
  let config ← ofFile file
  let config ← config.override env
  config.check
  return config

/-- How the configured station begins. -/
def station (config : Config) : StationSettings :=
  { parameters := config.stream
    liveInput := config.liveInput
    tlsValidation := config.tlsValidation
    player := ⟨config.pullTimeout, config.queueCapacity⟩ }

end Config

end StandbyStream
