import StandbyStream.Json.Token

/-!
# JSON documents

A document is a value as it is written: strings keep their escapes and numbers
their digits, and nothing is said of what they mean. The reader takes one token
after the other and remembers the containers that are open.
-/

namespace StandbyStream.Json

/-- A value as it is written; strings and keys by what stands between their quotes. -/
inductive Document where
  | null
  | bool (value : Bool)
  | number (numeral : Numeral)
  | string (body : List Char)
  | array (items : List Document)
  | object (members : List (List Char × Document))
  deriving Repr

namespace Document

/-! ## Reading -/

/-- A container whose next item is being read; what it holds so far, the newest first. -/
inductive Container where
  | array (items : List Document)
  | member (members : List (List Char × Document)) (key : List Char)
  deriving Repr

/-- Where a reader stands, with the containers around it, the innermost first. -/
inductive Reader where
  /-- A value must follow. -/
  | beforeValue (outer : List Container)
  /-- An array has been opened. -/
  | newArray (outer : List Container)
  /-- An array holds items. -/
  | inArray (items : List Document) (outer : List Container)
  /-- An object has been opened. -/
  | newObject (outer : List Container)
  /-- A key must follow. -/
  | beforeKey (members : List (List Char × Document)) (outer : List Container)
  /-- A colon must follow. -/
  | beforeColon (members : List (List Char × Document)) (key : List Char)
      (outer : List Container)
  /-- An object holds members. -/
  | inObject (members : List (List Char × Document)) (outer : List Container)
  /-- Nothing may follow. -/
  | done (document : Document)
  deriving Repr

namespace Reader

/-- Hands a value that is complete to the innermost container. -/
def put (document : Document) : List Container → Reader
  | [] => .done document
  | .array items :: outer => .inArray (document :: items) outer
  | .member members key :: outer => .inObject ((key, document) :: members) outer

/-- Begins a value. -/
def enter (outer : List Container) : Token → Option Reader
  | .null => some (put .null outer)
  | .bool value => some (put (.bool value) outer)
  | .number numeral => some (put (.number numeral) outer)
  | .string body => some (put (.string body) outer)
  | .openBracket => some (.newArray outer)
  | .openBrace => some (.newObject outer)
  | _ => none

/-- Takes one token. -/
def step : Reader → Token → Option Reader
  | .beforeValue outer, token => enter outer token
  | .newArray outer, .closeBracket => some (put (.array []) outer)
  | .newArray outer, token => enter (.array [] :: outer) token
  | .inArray items outer, .comma => some (.beforeValue (.array items :: outer))
  | .inArray items outer, .closeBracket => some (put (.array items.reverse) outer)
  | .newObject outer, .closeBrace => some (put (.object []) outer)
  | .newObject outer, .string key => some (.beforeColon [] key outer)
  | .beforeKey members outer, .string key => some (.beforeColon members key outer)
  | .beforeColon members key outer, .colon => some (.beforeValue (.member members key :: outer))
  | .inObject members outer, .comma => some (.beforeKey members outer)
  | .inObject members outer, .closeBrace => some (put (.object members.reverse) outer)
  | _, _ => none

end Reader

/-- Reads a whole text as one value. -/
def read? (cs : List Char) : Option Document :=
  match (tokens cs).bind fun ts => ts.foldlM Reader.step (.beforeValue []) with
  | some (.done document) => some document
  | _ => none

/-! ## Writing -/

mutual

/-- The written form, without white space. -/
def render : Document → List Char
  | .null => ['n', 'u', 'l', 'l']
  | .bool true => ['t', 'r', 'u', 'e']
  | .bool false => ['f', 'a', 'l', 's', 'e']
  | .number numeral => numeral.render
  | .string body => '"' :: body ++ ['"']
  | .array [] => ['[', ']']
  | .array (item :: items) => '[' :: render item ++ renderItems items
  | .object [] => ['\x7b', '\x7d']
  | .object ((key, item) :: members) =>
    '\x7b' :: '"' :: key ++ '"' :: ':' :: render item ++ renderMembers members

/-- The items of an array behind its first, and its end. -/
def renderItems : List Document → List Char
  | [] => [']']
  | item :: items => ',' :: render item ++ renderItems items

/-- The members of an object behind its first, and its end. -/
def renderMembers : List (List Char × Document) → List Char
  | [] => ['\x7d']
  | (key, item) :: members =>
    ',' :: '"' :: key ++ '"' :: ':' :: render item ++ renderMembers members

end

end Document

end StandbyStream.Json
