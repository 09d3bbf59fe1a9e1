import StandbyStream.Toml.Lexeme
import StandbyStream.Toml.Number
import StandbyStream.Toml.Table

/-!
# TOML documents

A document is a list of statements, one on a line: headers and pairs of key and
value. Arrays may go over several lines, tables written as values may not. The
statements are read first and then carried out in order.
-/

namespace StandbyStream.Toml

/-! ## White space and comments -/

/-- Passes over a comment up to the end of its line, if one begins here. -/
def pastComment : List Char → List Char
  | '#' :: rest => rest.dropWhile isPlain
  | cs => cs

/-- Passes over the rest of a line that holds nothing but perhaps a comment. -/
def pastLine? (cs : List Char) : Option (List Char) :=
  match pastComment (cs.dropWhile isSpace) with
  | [] => some []
  | rest => afterNewline? rest

/-- Passes over white space, line ends and comments, at most `limit` of them. -/
def pastBlanks : Nat → List Char → List Char
  | 0, cs => cs
  | limit + 1, cs =>
    let cs := cs.dropWhile isSpace
    match afterNewline? cs with
    | some rest => pastBlanks limit rest
    | none =>
      match cs with
      | '#' :: _ =>
        match afterNewline? (pastComment cs) with
        | some rest => pastBlanks limit rest
        | none => cs
      | _ => cs

/-- Passes over all white space, line ends and comments. -/
def pastAllBlanks (cs : List Char) : List Char :=
  pastBlanks (cs.length + 1) cs

/-! ## Values -/

/-- Passes over the given word. -/
def word? (word : String) (cs : List Char) : Option (List Char) :=
  Text.afterLead word.toList cs

/-- Reads a value that holds no other. Dates are tried before numbers, which begin alike. -/
def scalar? (cs : List Char) : Option (Node × List Char) :=
  ((string? cs).map fun cut => (Node.text (String.ofList cut.1), cut.2)).or <|
  ((word? "true" cs).map fun rest => (Node.bool true, rest)).or <|
  ((word? "false" cs).map fun rest => (Node.bool false, rest)).or <|
  ((moment? cs).map fun rest => (Node.moment, rest)).or <|
  ((float? cs).map fun rest => (Node.float, rest)).or <|
  (integer? cs).map fun cut => (Node.integer cut.1, cut.2)

section

variable (value? : List Char → Option (Node × List Char))

/-- Reads the items of an array up to its end, at most `limit` of them. A comma may follow the
last one. -/
def items? : Nat → List Char → Option (List Node × List Char)
  | 0, _ => none
  | limit + 1, cs =>
    match pastAllBlanks cs with
    | ']' :: rest => some ([], rest)
    | cs =>
      match value? cs with
      | none => none
      | some (item, rest) =>
        match pastAllBlanks rest with
        | ',' :: rest => (items? limit rest).map fun cut => (item :: cut.1, cut.2)
        | ']' :: rest => some ([item], rest)
        | _ => none

/-- Reads a dotted key, an equals sign and a value: the keys on the way, the last key, the value. -/
def pair? (cs : List Char) : Option ((List String × String × Node) × List Char) :=
  match keyPath? maxKeys cs with
  | none => none
  | some (keys, rest) =>
    match keys.getLast?, rest with
    | some key, '=' :: rest =>
      (value? (rest.dropWhile isSpace)).map fun cut => ((keys.dropLast, key, cut.1), cut.2)
    | _, _ => none

/-- Reads the pairs of a table written as a value up to its end, at most `limit` of them, and adds
them to `entries`. -/
def pairs? : Nat → Entries → List Char → Option (Entries × List Char)
  | 0, _, _ => none
  | limit + 1, entries, cs =>
    match pair? value? cs with
    | none => none
    | some ((path, key, node), rest) =>
      match entries.insert key node path, rest.dropWhile isSpace with
      | some entries, ',' :: rest => pairs? limit entries rest
      | some entries, '\x7d' :: rest => some (entries, rest)
      | _, _ => none

/-- Reads a table written as a value behind its opening brace. -/
def inlineTable? (cs : List Char) : Option (Entries × List Char) :=
  match cs.dropWhile isSpace with
  | '\x7d' :: rest => some ([], rest)
  | cs => pairs? value? (cs.length + 1) [] cs

end

/-- Reads a value with at most `depth` containers inside one another. -/
def value? : Nat → List Char → Option (Node × List Char)
  | 0, cs => scalar? cs
  | depth + 1, cs =>
    match cs with
    | '[' :: rest => (items? (value? depth) (rest.length + 1) rest).map fun cut =>
        (.array cut.1, cut.2)
    | '\x7b' :: rest => (inlineTable? (value? depth) rest).map fun cut => (.inline cut.1, cut.2)
    | cs => scalar? cs

/-- Most containers inside one another. -/
def maxDepth : Nat := 79

/-! ## Statements -/

/-- A line that says something. -/
inductive Statement where
  /-- A header of a table, by the keys on the way and its own. -/
  | table (path : List String) (key : String)
  /-- A header that may be repeated. -/
  | element (path : List String) (key : String)
  | pair (path : List String) (key : String) (value : Node)
  deriving Repr

/-- Reads a header between its brackets: the keys on the way and its own. -/
def header? (cs : List Char) : Option ((List String × String) × List Char) :=
  match keyPath? maxKeys cs with
  | none => none
  | some (keys, rest) => keys.getLast?.map fun key => ((keys.dropLast, key), rest)

/-- Reads a statement. -/
def statement? : List Char → Option (Statement × List Char)
  | '[' :: '[' :: rest =>
    match header? rest with
    | some ((path, key), ']' :: ']' :: rest) => some (.element path key, rest)
    | _ => none
  | '[' :: rest =>
    match header? rest with
    | some ((path, key), ']' :: rest) => some (.table path key, rest)
    | _ => none
  | cs => (pair? (value? maxDepth) cs).map fun ((path, key, node), rest) =>
      (.pair path key node, rest)

/-- Reads the statements of a text, at most `limit` of them. -/
def statements? : Nat → List Char → Option (List Statement)
  | 0, _ => none
  | limit + 1, cs =>
    match cs.dropWhile isSpace with
    | [] => some []
    | '#' :: rest => (pastLine? ('#' :: rest)).bind (statements? limit)
    | cs =>
      match afterNewline? cs with
      | some rest => statements? limit rest
      | none =>
        match statement? cs with
        | none => none
        | some (statement, rest) =>
          match pastLine? rest with
          | none => none
          | some rest => (statements? limit rest).map (statement :: ·)

/-! ## Carrying out -/

/-- A document in the making: its entries and the path of the table that pairs go to. -/
structure Draft where
  entries : Entries
  current : List String

/-- Carries out one statement. -/
def Draft.step (draft : Draft) : Statement → Option Draft
  | .table path key =>
    (draft.entries.modify (·.openTable key) path).map fun entries => ⟨entries, path ++ [key]⟩
  | .element path key =>
    (draft.entries.modify (·.openElement key) path).map fun entries => ⟨entries, path ++ [key]⟩
  | .pair path key node =>
    (draft.entries.modify (·.insert key node path) draft.current).map fun entries =>
      { draft with entries }

/-- Passes over a byte order mark. -/
def pastMark : List Char → List Char
  | '\ufeff' :: rest => rest
  | cs => cs

/-- Reads a document. -/
def read? (cs : List Char) : Option Node :=
  let cs := pastMark cs
  ((statements? (cs.length + 1) cs).bind fun statements =>
    statements.foldlM Draft.step ⟨[], []⟩).map fun draft => .table .header draft.entries

end StandbyStream.Toml
