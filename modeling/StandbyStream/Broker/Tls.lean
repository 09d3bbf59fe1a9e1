import StandbyStream.Broker.Endpoint
import StandbyStream.Files

/-!
# Encrypted connections

The certificates of a connection to the broker, and the transport that they and
the endpoint call for. Certificates are never left unused: where they would be,
there is no transport.
-/

namespace StandbyStream

/-- A certificate of this client and its key. -/
structure ClientCertificate where
  certificate : Bytes
  key : Bytes
  deriving DecidableEq, Repr

/-- The certificates of a connection. -/
structure TlsMaterial where
  /-- The authority to trust instead of the usual ones. -/
  authority : Option Bytes
  client : Option ClientCertificate
  deriving DecidableEq, Repr

namespace TlsMaterial

/-- No certificates. -/
def none : TlsMaterial :=
  ⟨.none, .none⟩

/-- Some certificate is given. -/
def isGiven (m : TlsMaterial) : Bool :=
  m.authority.isSome || m.client.isSome

/-! ## Loading -/

/-- Why certificates cannot be loaded. -/
inductive Fault where
  | authority (path : String) (cause : FileFault)
  | certificate (path : String) (cause : FileFault)
  | key (path : String) (cause : FileFault)
  | certificateWithoutKey
  | keyWithoutCertificate
  deriving DecidableEq, Repr

/-- The messages of a fault, outermost first. -/
def Fault.chain : Fault → List String
  | .authority path cause => ["failed to read MQTT TLS CA '" ++ path ++ "'", cause.message]
  | .certificate path cause =>
    ["failed to read MQTT TLS client cert '" ++ path ++ "'", cause.message]
  | .key path cause => ["failed to read MQTT TLS client key '" ++ path ++ "'", cause.message]
  | .certificateWithoutKey => ["MQTT TLS client certificate provided without key"]
  | .keyWithoutCertificate => ["MQTT TLS client key provided without certificate"]

instance : Explains Fault where
  chain := Fault.chain

/-- Loads the authority, where one is named. -/
def loadAuthority (files : Files) : Option String → Except Fault (Option Bytes)
  | .none => .ok .none
  | some path =>
    match files path with
    | .ok bytes => .ok (some bytes)
    | .error cause => .error (.authority path cause)

/-- Loads the certificate of the client and its key, which go together. -/
def loadClient (files : Files) :
    Option String → Option String → Except Fault (Option ClientCertificate)
  | .none, .none => .ok .none
  | some _, .none => .error .certificateWithoutKey
  | .none, some _ => .error .keyWithoutCertificate
  | some certificate, some key =>
    match files certificate with
    | .error cause => .error (.certificate certificate cause)
    | .ok certificate =>
      match files key with
      | .error cause => .error (.key key cause)
      | .ok key => .ok (some ⟨certificate, key⟩)

/-- Loads certificates from the paths that are given, the authority first. -/
def load (files : Files) (authority certificate key : Option String) :
    Except Fault TlsMaterial := do
  let authority ← loadAuthority files authority
  let client ← loadClient files certificate key
  return ⟨authority, client⟩

end TlsMaterial

/-! ## Transport -/

/-- How messages travel to the broker. -/
inductive Transport where
  | plain
  /-- Encrypted, trusting the usual authorities. -/
  | usualAuthorities
  /-- Encrypted, trusting one authority, perhaps with a certificate of this client. -/
  | ownAuthority (authority : Bytes) (client : Option ClientCertificate)
  deriving DecidableEq, Repr

namespace Transport

/-- Why there is no transport. -/
inductive Fault where
  | unusedMaterial
  | noAuthority
  deriving DecidableEq, Repr

/-- The wording of a fault. -/
def Fault.message : Fault → String
  | .unusedMaterial =>
    "MQTT TLS materials provided but TLS is disabled.\n" ++
      "Use --mqtt-use-tls or the mqtts:// scheme to enable TLS."
  | .noAuthority =>
    "MQTT TLS CA certificate is required when providing client certificates.\n" ++
      "Specify --mqtt-tls-ca-path or remove the client cert configuration."

instance : Explains Fault where
  chain fault := [fault.message]

/-- The transport to an endpoint. -/
def choose (endpoint : Endpoint) (m : TlsMaterial) : Except Fault Transport :=
  if !endpoint.useTls then if m.isGiven then .error .unusedMaterial else .ok .plain
  else if !m.isGiven then .ok .usualAuthorities
  else
    match m.authority with
    | none => .error .noAuthority
    | some authority => .ok (.ownAuthority authority m.client)

end Transport

end StandbyStream
