import StandbyStream.Broker.Connection
import StandbyStream.Text.Cut
import StandbyStream.Text.Hex

/-!
# Messages as lines

Where the broker is reached through pipes, a message is a line: its topic, a
tab and its payload in hexadecimal digits. The last tab counts, since digits
hold none.
-/

namespace StandbyStream

/-- The line of a message. -/
def Publication.toLine (message : Publication) : String :=
  String.ofList (message.topic.toList ++ '\t' :: Text.toHex message.payload)

/-- The topic and the payload of a line. -/
def readLine? (line : String) : Option (String × Bytes) :=
  match Text.cutLast '\t' line.toList with
  | none => none
  | some (topic, digits) =>
    (Text.ofHex? digits).map fun payload => (String.ofList topic, payload)

end StandbyStream
