import StandbyStream.HostPort
import StandbyStream.Url

/-!
# Stream destinations

Where a stream is sent: packets to a UDP endpoint, or a connection to the
server that a URL names. A destination is written the way it is read.
-/

namespace StandbyStream

/-- Where a stream goes. -/
inductive Destination where
  | udp (host : String) (port : UInt16)
  | server (location : String)
  deriving DecidableEq, Repr

namespace Destination

/-- Why a text is no destination; each fault quotes the trimmed text. -/
inductive Fault where
  | empty
  | badUdp (text : String) (cause : HostPort.Fault)
  | udpWithoutHost (text : String)
  | udpPortZero (text : String)
  | badLocation (text : String) (cause : Url.Fault)
  | locationWithoutHost (text : String)
  deriving DecidableEq, Repr

/-- The messages of a fault, outermost first. -/
def Fault.chain : Fault → List String
  | .empty => ["stream address is empty"]
  | .badUdp text cause => ("invalid UDP stream address '" ++ text ++ "'") :: cause.chain
  | .udpWithoutHost text => ["UDP stream address '" ++ text ++ "' has no host"]
  | .udpPortZero text => ["UDP stream address '" ++ text ++ "' has port 0"]
  | .badLocation text cause => ["invalid RTSP location '" ++ text ++ "': " ++ cause.message]
  | .locationWithoutHost text => ["RTSP location '" ++ text ++ "' has no host"]

instance : Explains Fault where
  chain := Fault.chain

/-- What a UDP destination begins with. -/
def udpLead : List Char := "udp://".toList

/-- Reads what follows the lead of a UDP destination; slashes at its end do not count. -/
def parseUdp (text : String) (rest : List Char) : Except Fault Destination :=
  match HostPort.parseChars (Text.dropSuffixWhile (· == '/') rest) with
  | .error cause => .error (.badUdp text cause)
  | .ok endpoint =>
    if endpoint.host = "" then .error (.udpWithoutHost text)
    else if endpoint.port = 0 then .error (.udpPortZero text)
    else .ok (.udp endpoint.host endpoint.port)

/-- Reads the location of a server, which is kept as it is. -/
def parseLocation (text : String) : Except Fault Destination :=
  match Url.host text with
  | .error cause => .error (.badLocation text cause)
  | .ok none => .error (.locationWithoutHost text)
  | .ok (some _) => .ok (.server text)

/-- Reads a destination, whatever its margin. -/
def parse (s : String) : Except Fault Destination :=
  let cs := Text.trimChars s.toList
  let text := String.ofList cs
  if cs.isEmpty then .error .empty
  else
    match Text.afterLead udpLead cs with
    | some rest => parseUdp text rest
    | none => parseLocation text

/-- The destination takes packets. -/
def isUdp : Destination → Bool
  | .udp .. => true
  | .server _ => false

/-- Writes a destination; a host with a colon in it needs brackets. -/
def text : Destination → String
  | .udp host port =>
    let host := if host.toList.contains ':' then "[" ++ host ++ "]" else host
    "udp://" ++ host ++ ":" ++ toString port.toNat
  | .server location => location

end Destination

end StandbyStream
