import StandbyStream.HostPort
import StandbyStream.IpAddress
import StandbyStream.Text.Blank

/-!
# Broker endpoints

Where the message broker is: a host and a port, perhaps behind a scheme that
also says whether the connection is encrypted. A broker on another machine has
to be allowed.
-/

namespace StandbyStream

/-- The address of a broker and whether the connection to it is encrypted. -/
structure Endpoint where
  host : String
  port : UInt16
  useTls : Bool
  deriving DecidableEq, Repr

namespace Endpoint

/-- Where a broker is unless something else is said. -/
def standardText : String :=
  "127.0.0.1:1883"

/-- Why a text is no endpoint. -/
inductive Fault where
  | unknownScheme (scheme : String)
  /-- The text is quoted with its margin and scheme. -/
  | badAddress (text : String) (cause : HostPort.Fault)
  deriving DecidableEq, Repr

/-- The messages of a fault, outermost first. -/
def Fault.chain : Fault → List String
  | .unknownScheme scheme => ["unsupported MQTT scheme: " ++ scheme]
  | .badAddress text cause => ("invalid MQTT address '" ++ text ++ "'") :: cause.chain

instance : Explains Fault where
  chain := Fault.chain

/-- The parts before and after the first `://`. -/
def cutScheme : List Char → Option (List Char × List Char)
  | [] => none
  | ':' :: '/' :: '/' :: rest => some ([], rest)
  | c :: rest => (cutScheme rest).map fun cut => (c :: cut.1, cut.2)

/-- Whether a scheme asks for encryption. -/
def schemeTls? (scheme : String) : Option Bool :=
  if scheme ∈ ["mqtt", "tcp"] then some false
  else if scheme ∈ ["mqtts", "ssl"] then some true
  else none

/-- Reads an endpoint. Encryption is used if the scheme or the caller asks for it. -/
def parse (text : String) (forceTls : Bool) : Except Fault Endpoint :=
  let address (useTls : Bool) (cs : List Char) : Except Fault Endpoint :=
    match HostPort.parseChars cs with
    | .error cause => .error (.badAddress text cause)
    | .ok address => .ok ⟨address.host, address.port, useTls⟩
  let cs := Text.trimChars text.toList
  match cutScheme cs with
  | none => address forceTls cs
  | some (scheme, rest) =>
    match schemeTls? (String.ofList scheme) with
    | none => .error (.unknownScheme (String.ofList scheme))
    | some tls => address (forceTls || tls) rest

/-- A broker on another machine, by the text it was named with. -/
structure NotLocal where
  text : String
  deriving DecidableEq, Repr

instance : Explains NotLocal where
  chain fault :=
    ["MQTT broker must be loopback: " ++ fault.text ++ " (use --allow-remote-mqtt to override)"]

/-- The host is this machine: it is called so, or its address loops back. -/
def isLocal (endpoint : Endpoint) : Bool :=
  endpoint.host == "localhost" || (IpAddress.parse endpoint.host).any IpAddress.isLoopback

/-- Refuses a broker on another machine. -/
def checkLocal (endpoint : Endpoint) (text : String) : Except NotLocal Unit :=
  if endpoint.isLocal then .ok () else .error ⟨text⟩

end Endpoint

end StandbyStream
