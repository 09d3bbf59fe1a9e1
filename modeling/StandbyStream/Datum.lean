/-!
# Data

What the documents of every data format have in common: they are scalars,
lists or records. Records of known fields are read from any of them by the same
rules: unknown fields are passed over, known ones may not come twice, and a
list may stand for a record by giving its fields in order.
-/

namespace StandbyStream

/-- A kind of document that holds scalars, lists and records. -/
class Datum (δ : Type) where
  /-- The document that stands for nothing. -/
  isNull : δ → Bool
  bool? : δ → Option Bool
  /-- A natural number; it is below `2 ^ 64`. -/
  natural? : δ → Option Nat
  text? : δ → Option String
  items? : δ → Option (List δ)
  /-- The fields of a record in order, perhaps with repeated names. -/
  fields? : δ → Option (List (String × δ))
  /-- A list that stands for a record may not be longer than the record. -/
  exactLists : Bool

namespace Datum

variable {δ : Type} [Datum δ]

/-- A natural number below `2 ^ 32`. -/
def word? (d : δ) : Option UInt32 :=
  (natural? d).bind fun n => if n < UInt32.size then some (UInt32.ofNat n) else none

/-- A list of this length may stand for a record of `fields` fields. -/
def fitsRecord (δ : Type) [Datum δ] (fields items : Nat) : Bool :=
  if exactLists δ then items = fields else fields ≤ items

/-- The fields of a record that have one of the names, each at most once. -/
def record? (names : List String) (d : δ) : Option (List (String × δ)) :=
  match fields? d with
  | some fields =>
    let known := fields.filter fun field => names.contains field.1
    if (known.map (·.1)).Nodup then some known else none
  | none =>
    match items? d with
    | some items => if fitsRecord δ names.length items.length then some (names.zip items) else none
    | none => none

/-- Reads a field that must be there. -/
def required {α : Type} (fields : List (String × δ)) (name : String) (read : δ → Option α) :
    Option α :=
  (fields.lookup name).bind read

/-- Reads a field that may be absent or null. -/
def optional {α : Type} (fields : List (String × δ)) (name : String) (read : δ → Option α) :
    Option (Option α) :=
  match fields.lookup name with
  | none => some none
  | some d => if isNull d then some none else (read d).map some

/-- Reads a name out of a list of named values: a text, or a record whose one field is null. -/
def named? {α : Type} (names : List (String × α)) (d : δ) : Option α :=
  match text? d with
  | some text => names.lookup text
  | none =>
    match fields? d with
    | some [(text, value)] => if isNull value then names.lookup text else none
    | _ => none

end Datum

end StandbyStream
