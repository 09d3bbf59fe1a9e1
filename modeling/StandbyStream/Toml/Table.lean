import StandbyStream.Datum

/-!
# TOML tables

What a TOML document holds, and how its tables grow. A table comes into being
under its own header, on the way to another one, or by dotted keys, and this
decides what may still be added to it: nothing is defined twice.
-/

namespace StandbyStream.Toml

/-- How a table came into being. -/
inductive Origin where
  /-- Under its own header. -/
  | header
  /-- On the way to a table with a header. -/
  | path
  /-- By dotted keys. -/
  | dotted
  deriving DecidableEq, Repr

/-- A value or table. Of floating-point numbers, dates and times only their kind is kept. -/
inductive Node where
  | text (value : String)
  | integer (value : Int)
  | bool (value : Bool)
  | float
  | moment
  | array (items : List Node)
  /-- A table written as a value, to which nothing can be added. -/
  | inline (entries : List (String × Node))
  | table (origin : Origin) (entries : List (String × Node))
  /-- Tables under one repeated header, in order; additions go to the last. -/
  | tables (elements : List (List (String × Node)))
  deriving Repr

/-- The entries of a table in the order of their coming; no key comes twice. -/
abbrev Entries := List (String × Node)

namespace Entries

/-- The entries with another node under a key. -/
def put (entries : Entries) (key : String) (node : Node) : Entries :=
  match entries with
  | [] => [(key, node)]
  | (other, old) :: rest =>
    if other = key then (key, node) :: rest else (other, old) :: put rest key node

/-- Adds a value under a dotted key. The tables on the way must be new or made by dotted keys, at
least the last of them, and none may have a header. -/
def insert (key : String) (node : Node) : List String → Entries → Option Entries
  | [], entries =>
    match entries.lookup key with
    | some _ => none
    | none => some (entries.put key node)
  | step :: path, entries =>
    match entries.lookup step with
    | none => (insert key node path []).map fun sub => entries.put step (.table .dotted sub)
    | some (.table .dotted sub) =>
      (insert key node path sub).map fun sub => entries.put step (.table .dotted sub)
    | some (.table .path sub) =>
      if path = [] then none
      else (insert key node path sub).map fun sub => entries.put step (.table .path sub)
    | some (.tables elements) =>
      if path = [] then none
      else (insert key node path (elements.getLast?.getD [])).map fun sub =>
        entries.put step (.tables (elements.dropLast ++ [sub]))
    | some _ => none

/-- Changes the table at the end of a path of header keys, making the tables on the way. -/
def modify (change : Entries → Option Entries) : List String → Entries → Option Entries
  | [], entries => change entries
  | step :: path, entries =>
    match entries.lookup step with
    | none => (modify change path []).map fun sub => entries.put step (.table .path sub)
    | some (.table origin sub) =>
      (modify change path sub).map fun sub => entries.put step (.table origin sub)
    | some (.tables elements) =>
      (modify change path (elements.getLast?.getD [])).map fun sub =>
        entries.put step (.tables (elements.dropLast ++ [sub]))
    | some _ => none

/-- Opens a table under its own header; it must be new or have come into being on the way. -/
def openTable (key : String) (entries : Entries) : Option Entries :=
  match entries.lookup key with
  | none => some (entries.put key (.table .header []))
  | some (.table .path sub) => some (entries.put key (.table .header sub))
  | some _ => none

/-- Adds a table under a repeated header. -/
def openElement (key : String) (entries : Entries) : Option Entries :=
  match entries.lookup key with
  | none => some (entries.put key (.tables [[]]))
  | some (.tables elements) => some (entries.put key (.tables (elements ++ [[]])))
  | some _ => none

end Entries

/-! ## Documents as data -/

/-- The one field of a date or time that is looked at as a record. -/
def momentField : String :=
  "$__toml_private_datetime"

/-- Dates and times pass for records of one field, whose name no other record has. A list that
stands for a record may be longer. -/
instance : Datum Node where
  isNull _ := false
  bool?
    | .bool value => some value
    | _ => none
  natural?
    | .integer value => if 0 ≤ value then some value.toNat else none
    | _ => none
  text?
    | .text value => some value
    | _ => none
  items?
    | .array items => some items
    | .tables elements => some (elements.map (.table .header))
    | _ => none
  fields?
    | .inline entries => some entries
    | .table _ entries => some entries
    | .moment => some [(momentField, .text "")]
    | _ => none
  exactLists := false

end StandbyStream.Toml
