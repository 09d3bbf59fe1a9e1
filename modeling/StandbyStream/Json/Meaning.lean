import StandbyStream.Datum
import StandbyStream.Json.Document
import StandbyStream.Json.Escape
import StandbyStream.Text.Utf8

/-!
# The meaning of JSON documents

What a document stands for, part by part. Whoever wants all of a document
refuses one that nests too deeply or holds any part without a meaning; whoever
wants some of its fields does not look into the rest.
-/

namespace StandbyStream.Json.Document

/-! ## Views -/

/-- The text of a string. -/
def text? : Document → Option String
  | .string body => (unescape body).map String.ofList
  | _ => none

/-- The members of an object; every key has to have a meaning. -/
def fields? : Document → Option (List (String × Document))
  | .object members =>
    members.mapM fun member => (unescape member.1).map fun key => (String.ofList key, member.2)
  | _ => none

instance : Datum Document where
  isNull
    | .null => true
    | _ => false
  bool?
    | .bool value => some value
    | _ => none
  natural?
    | .number numeral => numeral.natural?
    | _ => none
  text? := text?
  items?
    | .array items => some items
    | _ => none
  fields? := fields?
  exactLists := true

/-! ## Whole documents -/

/-- How deep a document may nest to be wanted as a whole. -/
def maxDepth : Nat := 127

mutual

/-- How many containers lie inside one another. -/
def depth : Document → Nat
  | .array items => depthOfItems items + 1
  | .object members => depthOfMembers members + 1
  | _ => 0

/-- Depth of the deepest item. -/
def depthOfItems : List Document → Nat
  | [] => 0
  | item :: items => max (depth item) (depthOfItems items)

/-- Depth of the deepest member. -/
def depthOfMembers : List (List Char × Document) → Nat
  | [] => 0
  | (_, item) :: members => max (depth item) (depthOfMembers members)

end

mutual

/-- Every string is a text and every number can be read. -/
def isMeaningful : Document → Bool
  | .string body => (unescape body).isSome
  | .number numeral => numeral.inRange
  | .array items => areMeaningful items
  | .object members => areMeaningfulMembers members
  | _ => true

/-- Every item is meaningful. -/
def areMeaningful : List Document → Bool
  | [] => true
  | item :: items => isMeaningful item && areMeaningful items

/-- Every key and every item is meaningful. -/
def areMeaningfulMembers : List (List Char × Document) → Bool
  | [] => true
  | (key, item) :: members =>
    (unescape key).isSome && isMeaningful item && areMeaningfulMembers members

end

/-- Reads a document that is wanted as a whole. -/
def load? (bytes : List UInt8) : Option Document :=
  match (Text.decodeUtf8? bytes).bind fun s => read? s.toList with
  | some document =>
    if document.depth ≤ maxDepth ∧ document.isMeaningful then some document else none
  | none => none

/-! ## Making documents -/

/-- The string that means a text. -/
def ofText (s : String) : Document :=
  .string (escape s.toList)

/-- A natural number. -/
def ofNat (n : Nat) : Document :=
  .number (.ofNat n)

/-- The object with the given members. -/
def ofFields (fields : List (String × Document)) : Document :=
  .object (fields.map fun field => (escape field.1.toList, field.2))

/-- The text of a document. -/
def toText (document : Document) : String :=
  String.ofList document.render

end StandbyStream.Json.Document
