import StandbyStream.Command

/-!
# Requests

A command as its sender writes it. The encoding is sent as it was asked for;
whether it is known is for the receiver to say.
-/

namespace StandbyStream.Command

/-- What a start is to carry. -/
structure Wishes where
  encoding : Option String
  width : Option UInt32
  height : Option UInt32
  fps : Option UInt32
  bitrate : Option UInt32
  address : Option String
  deriving DecidableEq, Repr

/-- A start with no wishes. -/
def Wishes.none : Wishes :=
  ⟨.none, .none, .none, .none, .none, .none⟩

/-- A command to be sent. -/
inductive Request where
  | start (wishes : Wishes)
  | stop
  deriving DecidableEq, Repr

namespace Request

/-- A field, where there is something to carry. -/
def field {α : Type} (name : String) (form : α → Json.Document) (value : Option α) :
    List (String × Json.Document) :=
  match value with
  | some value => [(name, form value)]
  | none => []

/-- The form of a number. -/
def word (n : UInt32) : Json.Document :=
  .ofNat n.toNat

/-- The document of a request, its fields in alphabetical order. -/
def toDocument : Request → Json.Document
  | .start wishes =>
    .ofFields <|
      field "Address" .ofText wishes.address ++ field "Bitrate" word wishes.bitrate ++
      field "Command" .ofText (some "start") ++ field "Encoding" .ofText wishes.encoding ++
      field "Fps" word wishes.fps ++ field "Height" word wishes.height ++
      field "Width" word wishes.width
  | .stop => .ofFields [("Command", .ofText "stop")]

/-- The message of a request. -/
def toMessage (request : Request) : List UInt8 :=
  Text.encodeUtf8 request.toDocument.toText

end Request

end StandbyStream.Command
