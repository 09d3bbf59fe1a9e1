/-!
# Format descriptions

A media type with named, typed fields in order, as pipeline stages negotiate
it, and its written form.
-/

namespace StandbyStream

/-- The value of a format field. -/
inductive CapsValue where
  | text (value : String)
  | int (value : Int)
  | bool (value : Bool)
  | fraction (num den : Int)
  deriving DecidableEq, Repr

/-- A value with its type in front. -/
def CapsValue.render : CapsValue → String
  | .text value => "(string)" ++ value
  | .int value => "(int)" ++ toString value
  | .bool value => "(boolean)" ++ toString value
  | .fraction num den => "(fraction)" ++ toString num ++ "/" ++ toString den

/-- A media type and its fields in order. -/
structure Caps where
  mediaType : String
  fields : List (String × CapsValue)
  deriving DecidableEq, Repr

namespace Caps

/-- A media type without fields. -/
def ofType (mediaType : String) : Caps :=
  ⟨mediaType, []⟩

/-- Appends a field. -/
def field (caps : Caps) (name : String) (value : CapsValue) : Caps :=
  { caps with fields := caps.fields ++ [(name, value)] }

/-- The value of the first field with the name. -/
def get? (caps : Caps) (name : String) : Option CapsValue :=
  caps.fields.lookup name

/-- The written form: the media type, then every field behind a comma. -/
def render (caps : Caps) : String :=
  caps.mediaType ++
    String.join (caps.fields.map fun (name, value) => "," ++ name ++ "=" ++ value.render)

/-- A frame rate as a fraction of signed 32-bit numbers; rates from `2 ^ 31` on come out
negative. -/
def rate (fps : UInt32) : CapsValue :=
  .fraction fps.toInt32.toInt 1

/-- Raw frames of the given size and rate. -/
def rawVideo (width height fps : UInt32) : Caps :=
  (((ofType "video/x-raw").field "format" (.text "I420")).field "width" (.int width.toNat)
    |>.field "height" (.int height.toNat)).field "framerate" (rate fps)

end Caps

end StandbyStream
