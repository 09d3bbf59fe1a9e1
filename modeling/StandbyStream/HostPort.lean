import StandbyStream.Report
import StandbyStream.Text.Decimal

/-!
# Host and port

A network endpoint written `host:port` or `[host]:port`. Brackets let a host
hold colons; without them the last colon separates the port.
-/

namespace StandbyStream

/-- A host, as written, and a port. -/
structure HostPort where
  host : String
  port : UInt16
  deriving DecidableEq, Repr

namespace HostPort

/-- Why a text is no endpoint; each fault quotes the whole text. -/
inductive Fault where
  | unclosedBracket (text : String)
  | missingPort (text : String)
  | badPort (text : String) (cause : Text.NumberError)
  deriving DecidableEq, Repr

/-- The messages of a fault, outermost first. -/
def Fault.chain : Fault → List String
  | .unclosedBracket text => ["invalid address: " ++ text]
  | .missingPort text => ["missing port in " ++ text]
  | .badPort text cause => ["invalid port in " ++ text, cause.message]

instance : Explains Fault where
  chain := Fault.chain

/-- Reads the port of an endpoint whose host is known. -/
def withPort (text : String) (host port : List Char) : Except Fault HostPort :=
  match Text.readUInt16 (String.ofList port) with
  | .ok port => .ok ⟨String.ofList host, port⟩
  | .error cause => .error (.badPort text cause)

/-- Reads `[host]:port` when the text opens with a bracket, `host:port` otherwise. -/
def parseChars (cs : List Char) : Except Fault HostPort :=
  match cs with
  | '[' :: inner =>
    match Text.cutFirst ']' inner with
    | none => .error (.unclosedBracket (String.ofList cs))
    | some (host, ':' :: port) => withPort (String.ofList cs) host port
    | some _ => .error (.missingPort (String.ofList cs))
  | _ =>
    match Text.cutLast ':' cs with
    | none => .error (.missingPort (String.ofList cs))
    | some (host, port) => withPort (String.ofList cs) host port

/-- Reads an endpoint. -/
def parse (s : String) : Except Fault HostPort :=
  parseChars s.toList

end HostPort

end StandbyStream
