import StandbyStream.Text.Digits

/-!
# Keys and strings of TOML

The parts of a TOML document that hold text. Bare keys are made of a few ASCII
characters; strings come in four forms, with or without escapes and on one line
or several. Line ends count as one character, and control characters other than
the tab are refused everywhere.
-/

namespace StandbyStream.Toml

/-- White space within a line. -/
def isSpace (c : Char) : Bool :=
  c == ' ' || c == '\t'

/-- A character that may stand in a comment or a string. -/
def isPlain (c : Char) : Bool :=
  c == '\t' || (' ' ≤ c && c != '\x7f')

/-- What follows the line end at the start of a text. -/
def afterNewline? : List Char → Option (List Char)
  | '\n' :: rest => some rest
  | '\r' :: '\n' :: rest => some rest
  | _ => none

/-! ## Escapes -/

/-- What a letter behind a backslash means. -/
def escapeMeaning : Char → Option Char
  | 'b' => some '\x08'
  | 't' => some '\t'
  | 'n' => some '\n'
  | 'f' => some '\x0c'
  | 'r' => some '\r'
  | '"' => some '"'
  | '\\' => some '\\'
  | _ => none

/-- The character whose code has the given hexadecimal digits. -/
def ofHexDigits? (digits : List Char) : Option Char :=
  let code := Text.numberOf 16 digits
  if digits.all Text.isHexDigit ∧ code.isValidChar then some (Char.ofNat code) else none

/-- Puts a character in front of a text that has been read. -/
def push (c : Char) (read : Option (List Char × List Char)) : Option (List Char × List Char) :=
  read.map fun cut => (c :: cut.1, cut.2)

/-! ## Strings on one line -/

/-- Reads a string with escapes behind its opening quote. -/
def basicString : List Char → Option (List Char × List Char)
  | [] => none
  | '"' :: rest => some ([], rest)
  | '\\' :: 'u' :: a :: b :: c :: d :: rest =>
    match ofHexDigits? [a, b, c, d] with
    | some meaning => push meaning (basicString rest)
    | none => none
  | '\\' :: 'U' :: a :: b :: c :: d :: e :: f :: g :: h :: rest =>
    match ofHexDigits? [a, b, c, d, e, f, g, h] with
    | some meaning => push meaning (basicString rest)
    | none => none
  | '\\' :: c :: rest =>
    match escapeMeaning c with
    | some meaning => push meaning (basicString rest)
    | none => none
  | c :: rest => if isPlain c && c != '\\' then push c (basicString rest) else none

/-- Reads a string without escapes behind its opening quote. -/
def literalString : List Char → Option (List Char × List Char)
  | [] => none
  | c :: rest =>
    if c = '\'' then some ([], rest)
    else if isPlain c then push c (literalString rest)
    else none

/-! ## Strings on several lines -/

/-- The end of a string on several lines: up to two more quotes belong to the text. -/
def closing (quote : Char) : List Char → List Char × List Char
  | a :: b :: rest =>
    if a = quote ∧ b = quote then ([quote, quote], rest)
    else if a = quote then ([quote], b :: rest)
    else ([], a :: b :: rest)
  | [a] => if a = quote then ([quote], []) else ([], [a])
  | [] => ([], [])

/-- Only white space stands between here and the end of the line. -/
def endsLine (cs : List Char) : Bool :=
  (afterNewline? (cs.dropWhile isSpace)).isSome

/-- Reads a string with escapes on several lines. A backslash at the end of a line takes all white
space after it out of the text; while `skip` holds, that is being done. -/
def multilineBasic (skip : Bool) : List Char → Option (List Char × List Char)
  | [] => none
  | '"' :: '"' :: '"' :: rest => some (closing '"' rest)
  | '\n' :: rest =>
    if skip then multilineBasic true rest else push '\n' (multilineBasic false rest)
  | '\r' :: '\n' :: rest =>
    if skip then multilineBasic true rest else push '\n' (multilineBasic false rest)
  | '\\' :: 'u' :: a :: b :: c :: d :: rest =>
    match ofHexDigits? [a, b, c, d] with
    | some meaning => push meaning (multilineBasic false rest)
    | none => none
  | '\\' :: 'U' :: a :: b :: c :: d :: e :: f :: g :: h :: rest =>
    match ofHexDigits? [a, b, c, d, e, f, g, h] with
    | some meaning => push meaning (multilineBasic false rest)
    | none => none
  | '\\' :: c :: rest =>
    match escapeMeaning c with
    | some meaning => push meaning (multilineBasic false rest)
    | none =>
      if endsLine (c :: rest) then multilineBasic true rest else none
  | c :: rest =>
    if skip && isSpace c then multilineBasic true rest
    else if isPlain c && c != '\\' then push c (multilineBasic false rest)
    else none

/-- Reads a string without escapes on several lines. -/
def multilineLiteral : List Char → Option (List Char × List Char)
  | [] => none
  | '\'' :: '\'' :: '\'' :: rest => some (closing '\'' rest)
  | '\n' :: rest => push '\n' (multilineLiteral rest)
  | '\r' :: '\n' :: rest => push '\n' (multilineLiteral rest)
  | c :: rest => if isPlain c then push c (multilineLiteral rest) else none

/-- A line end directly behind the opening quotes does not belong to the text. -/
def pastFirstNewline (cs : List Char) : List Char :=
  (afterNewline? cs).getD cs

/-- Reads a string of any form. -/
def string? : List Char → Option (List Char × List Char)
  | '"' :: '"' :: '"' :: rest => multilineBasic false (pastFirstNewline rest)
  | '\'' :: '\'' :: '\'' :: rest => multilineLiteral (pastFirstNewline rest)
  | '"' :: rest => basicString rest
  | '\'' :: rest => literalString rest
  | _ => none

/-! ## Keys -/

/-- A character of a key without quotes. -/
def isBare (c : Char) : Bool :=
  c.isAlphanum || c == '-' || c == '_'

/-- Reads a key; quotes around it may be of the one-line forms. -/
def simpleKey? : List Char → Option (String × List Char)
  | '"' :: rest => (basicString rest).map fun cut => (String.ofList cut.1, cut.2)
  | '\'' :: rest => (literalString rest).map fun cut => (String.ofList cut.1, cut.2)
  | cs =>
    if cs.takeWhile isBare = [] then none
    else some (String.ofList (cs.takeWhile isBare), cs.dropWhile isBare)

/-- Reads at most `limit` keys with dots between them and white space around them. -/
def keyPath? : Nat → List Char → Option (List String × List Char)
  | 0, _ => none
  | limit + 1, cs =>
    match simpleKey? (cs.dropWhile isSpace) with
    | none => none
    | some (key, rest) =>
      match rest.dropWhile isSpace with
      | '.' :: rest => (keyPath? limit rest).map fun cut => (key :: cut.1, cut.2)
      | rest => some ([key], rest)

/-- Most keys that a dotted key may have. -/
def maxKeys : Nat := 79

end StandbyStream.Toml
