import StandbyStream.Broker.Connection
import StandbyStream.Config
import StandbyStream.Log
import StandbyStream.Program

/-!
# The daemon

A program that keeps one station in service. Commands and video come in from
the broker, a stream that has ended by itself is started again, and the status
goes out until the daemon takes its leave.

What the daemon does before it is in service may fail and ends it then; later
faults are only logged. The log keeps what was said before a failure.
-/

namespace StandbyStream.Daemon

/-! ## Arguments -/

/-- The name of the daemon, and what it calls itself unless something else is said. -/
def name : String :=
  "streamerd"

/-- The arguments of the daemon. -/
def grammar : CommandLine.Grammar where
  options :=
    [ ⟨"mqtt-broker-addr", .text, some "MQTT_BROKER_ADDR"⟩,
      ⟨"allow-remote-mqtt", .switch, some "ALLOW_REMOTE_MQTT"⟩,
      ⟨"mqtt-username", .text, some "MQTT_USERNAME"⟩,
      ⟨"mqtt-password", .text, some "MQTT_PASSWORD"⟩,
      ⟨"mqtt-use-tls", .switch, some "MQTT_USE_TLS"⟩,
      ⟨"mqtt-tls-ca-path", .path, some "MQTT_TLS_CA_PATH"⟩,
      ⟨"mqtt-tls-client-cert-path", .path, some "MQTT_TLS_CLIENT_CERT_PATH"⟩,
      ⟨"mqtt-tls-client-key-path", .path, some "MQTT_TLS_CLIENT_KEY_PATH"⟩,
      ⟨"mqtt-client-id", .text, some "MQTT_CLIENT_ID"⟩,
      ⟨"autostart", .switch, some "STREAMER_AUTOSTART"⟩ ]
  hasVersion := true
  subcommands := []

/-- What the daemon is asked to do. -/
structure Options where
  broker : String
  /-- The broker may be on another machine. -/
  allowRemote : Bool
  username : Option String
  password : Option String
  useTls : Bool
  authorityPath : Option String
  certificatePath : Option String
  keyPath : Option String
  clientId : String
  /-- The stream starts without a command. -/
  autostart : Bool
  deriving DecidableEq, Repr

/-- Reads the arguments. -/
def Options.read (env : Environment) (args : List String) : Except CommandLine.Halt Options :=
  (CommandLine.read grammar env args).map fun reading =>
    { broker := (reading.values.text? "mqtt-broker-addr").getD Endpoint.standardText
      allowRemote := reading.values.isOn "allow-remote-mqtt"
      username := reading.values.text? "mqtt-username"
      password := reading.values.text? "mqtt-password"
      useTls := reading.values.isOn "mqtt-use-tls"
      authorityPath := reading.values.text? "mqtt-tls-ca-path"
      certificatePath := reading.values.text? "mqtt-tls-client-cert-path"
      keyPath := reading.values.text? "mqtt-tls-client-key-path"
      clientId := (reading.values.text? "mqtt-client-id").getD name
      autostart := reading.values.isOn "autostart" }

/-- The files that the options and the environment name. -/
def Options.paths (env : Environment) (options : Options) : List String :=
  (env.text? Config.fileVariable).toList ++ options.authorityPath.toList ++
    options.certificatePath.toList ++ options.keyPath.toList

/-! ## Preparation -/

/-- Why the daemon did not come into service, or did not leave it well. -/
inductive Fault where
  | config (cause : Config.Fault)
  | endpoint (cause : Endpoint.Fault)
  | notLocal (cause : Endpoint.NotLocal)
  | material (cause : TlsMaterial.Fault)
  | engine (cause : EngineChoice.Unsupported)
  | memory (cause : Memory.Shortage)
  | transport (cause : Transport.Fault)
  | request (cause : RequestFault)
  deriving DecidableEq, Repr

/-- The messages of a fault, outermost first. -/
def Fault.chain : Fault → List String
  | .config cause => cause.chain
  | .endpoint cause => cause.chain
  | .notLocal cause => Explains.chain cause
  | .material cause => cause.chain
  | .engine cause => Explains.chain cause
  | .memory cause => Explains.chain cause
  | .transport cause => Explains.chain cause
  | .request cause => Explains.chain cause

instance : Explains Fault where
  chain := Fault.chain

/-- The end that a fault brings about. -/
def Fault.ending : Fault → Ending
  | .memory cause => .cutShort cause
  | cause => .ofFailure cause

/-- A piece of work that is logged and may fail; the log stays. -/
abbrev Logged := ExceptT Fault (StateM (List LogEntry))

/-- Adds a line to the log. -/
def say (level : Level) (text : String) : Logged Unit :=
  modify (· ++ [⟨level, text⟩])

/-- Fails with a cause, or has its value. -/
def orFail {ε α : Type} (fault : ε → Fault) (outcome : Except ε α) : Logged α :=
  ExceptT.mk (pure (outcome.mapError fault))

/-- What the daemon works with. -/
structure Plan where
  config : Config
  endpoint : Endpoint
  tls : TlsMaterial
  deriving DecidableEq, Repr

/-- Reads and checks all that the options call for. -/
def prepare (files : Files) (env : Environment) (options : Options) : Logged Plan := do
  let config ← orFail .config (Config.load files env)
  let endpoint ← orFail .endpoint (Endpoint.parse options.broker options.useTls)
  if options.allowRemote then
    say .warning "Remote MQTT enabled - ensure broker is in a trusted network"
  else orFail .notLocal (endpoint.checkLocal options.broker)
  let tls ← orFail .material
    (TlsMaterial.load files options.authorityPath options.certificatePath options.keyPath)
  return ⟨config, endpoint, tls⟩

/-- The word for a truth value. -/
def truthWord (b : Bool) : String :=
  if b then "true" else "false"

/-- What the daemon says about its stream. -/
def streamLine (config : Config) : String :=
  let p := config.stream
  "  Stream: " ++ p.encoding.name ++ " " ++ toString p.width.toNat ++ "x" ++
    toString p.height.toNat ++ "@" ++ toString p.fps.toNat ++ " -> " ++ p.address ++
    " (live input: " ++ truthWord config.liveInput ++ ")"

/-- What the daemon says about its plan. -/
def announce (plan : Plan) : Logged Unit := do
  let config := plan.config
  let endpoint := plan.endpoint
  let topics := config.topics
  say .info (name ++ " starting")
  say .info
    ("  MQTT broker: " ++ endpoint.host ++ ":" ++ toString endpoint.port.toNat ++ " (TLS: " ++
      truthWord endpoint.useTls ++ ")")
  say .info
    ("  Topics: command=" ++ topics.command ++ " video=" ++ topics.video ++ " status=" ++
      topics.status)
  say .info ("  Backend: " ++ config.engine.name)
  if config.engine = .simulated then
    say .warning
      ("simulated media backend selected: no packets will reach " ++ config.stream.address)
  say .info (streamLine config)

/-- The client that the daemon is. -/
def client (options : Options) (plan : Plan) : ClientSettings :=
  ⟨plan.endpoint, plan.tls, options.clientId, options.username, options.password,
    plan.config.maxChunk⟩

/-! ## Service -/

/-- A daemon in service. -/
structure Service (ρ π : Type) where
  station : Station ρ π
  connection : Connection
  /-- Time between two messages of the status, in milliseconds. -/
  statusInterval : Nat
  log : List LogEntry

/-- How the daemon ended, what it said, and the connection it had. -/
structure Outcome where
  ending : Ending
  log : List LogEntry
  connection : Option Connection

namespace Service

variable {ρ π : Type} [MediaEngine ρ π]

/-- Adds a line to the log. -/
def record (s : Service ρ π) (level : Level) (text : String) : Service ρ π :=
  { s with log := s.log ++ [⟨level, text⟩] }

/-- Takes the outcome of an action on the station; a fault is only logged. -/
def settle {ε α : Type} [Explains ε] (s : Service ρ π) (level : Level) (context : String) :
    Except ε α × Station ρ π → Service ρ π
  | (.ok _, station) => { s with station }
  | (.error cause, station) =>
    ({ s with station } : Service ρ π).record level (context ++ ": " ++ Report.line cause)

/-- Starts the stream without a command. -/
def autostart (s : Service ρ π) : Service ρ π :=
  s.settle .error "autostart failed" s.station.start

/-- Starts a stream again that has ended by itself. -/
def supervise (s : Service ρ π) : Service ρ π :=
  s.settle .warning "supervision" s.station.supervise

/-- Acts on a message. -/
def handle (s : Service ρ π) : Inbound → Service ρ π
  | .command payload => s.settle .error "rejected command" (s.station.command payload)
  | .video payload => s.settle .warning "dropping video chunk" (s.station.chunk payload)

/-- Takes a message from the broker, of any topic. After a message that was for this daemon it
looks after its stream. -/
def receive (s : Service ρ π) (topic payload : Bytes) : Service ρ π :=
  match s.connection.topics.classifyBytes topic payload with
  | some message => (s.handle message).supervise
  | none => s

/-- Publishes the status; a fault is only logged. -/
def publish (s : Service ρ π) (context : String) : Service ρ π :=
  match s.connection.publishStatus s.station.snapshot with
  | (.ok (), connection) => { s with connection }
  | (.error cause, connection) =>
    ({ s with connection } : Service ρ π).record .warning (context ++ ": " ++ Report.line cause)

/-- Publishes the status while in service. -/
def report (s : Service ρ π) : Service ρ π :=
  s.publish "failed to publish status"

/-- Stops the stream, publishes the last status and takes leave of the broker. -/
def leave (s : Service ρ π) : Outcome :=
  let s := s.record .info "shutdown requested, stopping stream..."
  let s := { s with station := s.station.stop }
  let s := s.publish "failed to publish final status"
  match s.connection.disconnect with
  | .ok () => ⟨.done, s.log, some s.connection⟩
  | .error cause => ⟨.ofFailure (Fault.request cause), s.log, some s.connection⟩

end Service

/-! ## Coming into service -/

/-- A service that has been announced and is connected; its log is still to come. -/
def connect (memory : Memory) (files : Files) (env : Environment) (options : Options) :
    Logged (Service Simulator SimPipeline) := do
  let plan ← prepare files env options
  announce plan
  let engine ← orFail .engine plan.config.engine.create
  let station ← orFail .memory (Station.make memory engine plan.config.station)
  let connection ← orFail .transport
    (Connection.connect (client options plan) plan.config.topics)
  return ⟨station, connection, plan.config.statusInterval, []⟩

/-- Brings the daemon into service, or tells how it ended instead. -/
def start (memory : Memory) (files : Files) (env : Environment) (options : Options) :
    Except Outcome (Service Simulator SimPipeline) :=
  match (connect memory files env options).run.run [] with
  | (.error cause, log) => .error ⟨cause.ending, log, none⟩
  | (.ok service, log) =>
    let service := { service with log }
    .ok (if options.autostart then service.autostart else service)

/-- Brings the daemon into service that the arguments ask for, on a machine with ample memory. -/
def run (files : Files) (env : Environment) (args : List String) :
    Except Outcome (Service Simulator SimPipeline) :=
  match Options.read env args with
  | .error reason => .error ⟨.halted reason, [], none⟩
  | .ok options => start .ample files env options

end StandbyStream.Daemon
