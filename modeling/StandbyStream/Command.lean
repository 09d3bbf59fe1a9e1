import StandbyStream.Json.Meaning
import StandbyStream.Parameters

/-!
# Commands

The two commands that a stream takes, as they are written on the wire. A start
may carry overrides; numbers that are not natural numbers of 32 bits count as
not carried.
-/

namespace StandbyStream

/-- A command to a stream. -/
inductive Command where
  | start (overrides : Overrides)
  | stop
  deriving DecidableEq, Repr

namespace Command

/-- Why a message is no command. -/
inductive Fault where
  | notJson
  | notObject
  | noVerb
  | unknownVerb (verb : String)
  | encoding (cause : Encoding.Unknown)
  deriving DecidableEq, Repr

/-- The messages of a fault. -/
def Fault.chain : Fault → List String
  | .notJson => ["command is not valid JSON"]
  | .notObject => ["command must be a JSON object"]
  | .noVerb => ["command has no \"Command\" field"]
  | .unknownVerb verb => ["unknown command '" ++ verb ++ "'"]
  | .encoding cause => Explains.chain cause

instance : Explains Fault where
  chain := Fault.chain

/-- The fields of a message; of repeated names the last one counts. -/
structure Fields where
  all : List (String × Json.Document)

namespace Fields

/-- The field of the name. -/
def get? (fields : Fields) (name : String) : Option Json.Document :=
  fields.all.reverse.lookup name

/-- The text of a field, if it is one. -/
def text? (fields : Fields) (name : String) : Option String :=
  (fields.get? name).bind Json.Document.text?

/-- The number of a field, if it is a natural one of 32 bits. -/
def word? (fields : Fields) (name : String) : Option UInt32 :=
  (fields.get? name).bind Datum.word?

/-- The address, which has two names; the second counts only where the first does not occur. -/
def address? (fields : Fields) : Option String :=
  match fields.get? "Address" with
  | some document => document.text?
  | none => fields.text? "StreamAddress"

/-- The encoding, if one is named. -/
def encoding? (fields : Fields) : Except Encoding.Unknown (Option Encoding) :=
  match fields.text? "Encoding" with
  | some name => (Encoding.parse name).map some
  | none => .ok none

/-- The overrides that a start carries. -/
def overrides (fields : Fields) : Except Encoding.Unknown Overrides :=
  fields.encoding?.map fun encoding =>
    { encoding
      width := fields.word? "Width"
      height := fields.word? "Height"
      fps := fields.word? "Fps"
      bitrate := fields.word? "Bitrate"
      address := fields.address? }

end Fields

/-- The command with the given fields. The verb may have a margin and any letter case. -/
def ofFields (fields : Fields) : Except Fault Command :=
  match fields.text? "Command" with
  | none => .error .noVerb
  | some verb =>
    let verb := Text.fold verb
    if verb = "start" then
      match fields.overrides with
      | .ok overrides => .ok (.start overrides)
      | .error cause => .error (.encoding cause)
    else if verb = "stop" then .ok .stop
    else .error (.unknownVerb verb)

/-- Reads a message. -/
def parse (message : List UInt8) : Except Fault Command :=
  match Json.Document.load? message with
  | none => .error .notJson
  | some document =>
    match document.fields? with
    | none => .error .notObject
    | some fields => ofFields ⟨fields⟩

end Command

end StandbyStream
