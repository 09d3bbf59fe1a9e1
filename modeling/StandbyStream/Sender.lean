import StandbyStream.Broker.Connection
import StandbyStream.Command.Request
import StandbyStream.Program

/-!
# The command sender

A program that publishes one command to a station and waits until the broker
has it.
-/

namespace StandbyStream.Sender

/-- The arguments of the sender. -/
def grammar : CommandLine.Grammar where
  options :=
    [ ⟨"mqtt-broker-addr", .text, some "MQTT_BROKER_ADDR"⟩,
      ⟨"mqtt-username", .text, some "MQTT_USERNAME"⟩,
      ⟨"mqtt-password", .text, some "MQTT_PASSWORD"⟩,
      ⟨"mqtt-use-tls", .switch, some "MQTT_USE_TLS"⟩,
      ⟨"mqtt-tls-ca-path", .path, some "MQTT_TLS_CA_PATH"⟩,
      ⟨"topic", .text, some "STREAMER_COMMAND_TOPIC"⟩ ]
  hasVersion := true
  subcommands :=
    [ ("start",
        [ ⟨"encoding", .text, none⟩,
          ⟨"width", .word, none⟩,
          ⟨"height", .word, none⟩,
          ⟨"fps", .word, none⟩,
          ⟨"bitrate", .word, none⟩,
          ⟨"address", .text, none⟩ ]),
      ("stop", []) ]

/-- What the sender is asked to do. -/
structure Options where
  broker : String
  username : Option String
  password : Option String
  useTls : Bool
  authorityPath : Option String
  topic : String
  request : Command.Request
  deriving DecidableEq, Repr

/-- The request of a subcommand. -/
def requestOf : Option (String × CommandLine.Values) → Command.Request
  | some ("start", values) =>
    .start
      { encoding := values.text? "encoding"
        width := values.word? "width"
        height := values.word? "height"
        fps := values.word? "fps"
        bitrate := values.word? "bitrate"
        address := values.text? "address" }
  | _ => .stop

/-- Reads the arguments. -/
def Options.read (env : Environment) (args : List String) : Except CommandLine.Halt Options :=
  (CommandLine.read grammar env args).map fun reading =>
    { broker := (reading.values.text? "mqtt-broker-addr").getD Endpoint.standardText
      username := reading.values.text? "mqtt-username"
      password := reading.values.text? "mqtt-password"
      useTls := reading.values.isOn "mqtt-use-tls"
      authorityPath := reading.values.text? "mqtt-tls-ca-path"
      topic := (reading.values.text? "topic").getD Topics.standard.command
      request := requestOf reading.subcommand }

/-- The files that the options name. -/
def Options.paths (options : Options) : List String :=
  options.authorityPath.toList

/-- Why a command could not be sent. -/
inductive Fault where
  | endpoint (cause : Endpoint.Fault)
  | material (cause : TlsMaterial.Fault)
  | transport (cause : Transport.Fault)
  | request (cause : RequestFault)
  /-- The broker refused the connection. -/
  | refused
  deriving DecidableEq, Repr

/-- The messages of a fault, outermost first. -/
def Fault.chain : Fault → List String
  | .endpoint cause => cause.chain
  | .material cause => cause.chain
  | .transport cause => [cause.message]
  | .request cause => Explains.chain cause
  | .refused => ["MQTT connection error: I/O: Connection refused (os error 111)"]

instance : Explains Fault where
  chain := Fault.chain

/-- The client that a sender is, and what it publishes. -/
def prepare (files : Files) (clientId : String) (options : Options) :
    Except Fault Connection := do
  let endpoint ← (Endpoint.parse options.broker options.useTls).mapError .endpoint
  let tls ← (TlsMaterial.load files options.authorityPath none none).mapError .material
  let settings : ClientSettings :=
    ⟨endpoint, tls, clientId, options.username, options.password, Frame.standardLimit⟩
  let connection ← (Connection.connect settings .standard).mapError .transport
  match connection.publish ⟨options.topic, false, options.request.toMessage⟩ with
  | (.error cause, _) => throw (.request cause)
  | (.ok (), connection) => return connection

/-- What became of a command: how the sender ended, and the connection it had. -/
structure Outcome where
  ending : Ending
  connection : Option Connection

/-- Sends a command to a broker that accepts connections or refuses them. -/
def send (files : Files) (clientId : String) (accepts : Bool) (options : Options) : Outcome :=
  match prepare files clientId options with
  | .error cause => ⟨.ofFailure cause, none⟩
  | .ok connection =>
    if accepts then ⟨.done, some connection⟩ else ⟨.ofFailure Fault.refused, none⟩

/-- Sends the command that the arguments ask for. -/
def run (files : Files) (env : Environment) (clientId : String) (accepts : Bool)
    (args : List String) : Outcome :=
  match Options.read env args with
  | .error reason => ⟨.halted reason, none⟩
  | .ok options => send files clientId accepts options

end StandbyStream.Sender
