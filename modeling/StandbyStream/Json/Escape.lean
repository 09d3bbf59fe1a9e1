import StandbyStream.Text.Digits

/-!
# JSON strings

What stands between the quotes of a string, and the text that it means. A code
unit of a surrogate pair means nothing without the other.
-/

namespace StandbyStream.Json

/-- The code unit with four hexadecimal digits. -/
def codeUnit (a b c d : Char) : Nat :=
  Text.numberOf 16 [a, b, c, d]

/-- The first half of a surrogate pair. -/
def isHighSurrogate (unit : Nat) : Bool :=
  0xD800 ≤ unit && unit ≤ 0xDBFF

/-- The second half of a surrogate pair. -/
def isLowSurrogate (unit : Nat) : Bool :=
  0xDC00 ≤ unit && unit ≤ 0xDFFF

/-- The character that a surrogate pair stands for. -/
def joinSurrogates (high low : Nat) : Char :=
  Char.ofNat (0x10000 + (high - 0xD800) * 0x400 + (low - 0xDC00))

/-- What a letter behind a backslash means. -/
def unescapeLetter : Char → Option Char
  | '"' => some '"'
  | '\\' => some '\\'
  | '/' => some '/'
  | 'b' => some '\x08'
  | 'f' => some '\x0c'
  | 'n' => some '\n'
  | 'r' => some '\r'
  | 't' => some '\t'
  | _ => none

/-- The text that a string means, unless half of a surrogate pair stands alone in it. -/
def unescape : List Char → Option (List Char)
  | [] => some []
  | '\\' :: 'u' :: a :: b :: c :: d :: rest =>
    let unit := codeUnit a b c d
    if isHighSurrogate unit then
      match rest with
      | '\\' :: 'u' :: e :: f :: g :: h :: rest =>
        let low := codeUnit e f g h
        if isLowSurrogate low then (unescape rest).map (joinSurrogates unit low :: ·) else none
      | _ => none
    else if isLowSurrogate unit then none
    else (unescape rest).map (Char.ofNat unit :: ·)
  | '\\' :: c :: rest =>
    match unescapeLetter c with
    | some meaning => (unescape rest).map (meaning :: ·)
    | none => none
  | c :: rest => (unescape rest).map (c :: ·)

/-- A digit from zero to fifteen. -/
def hexDigit (n : Nat) : Char :=
  Char.ofNat (if n < 10 then '0'.toNat + n else 'a'.toNat + (n - 10))

/-- The form of a character in a string: quotes, backslashes and control characters are escaped,
with a letter where there is one. -/
def escapeChar (c : Char) : List Char :=
  match c with
  | '"' => ['\\', '"']
  | '\\' => ['\\', '\\']
  | '\x08' => ['\\', 'b']
  | '\x0c' => ['\\', 'f']
  | '\n' => ['\\', 'n']
  | '\r' => ['\\', 'r']
  | '\t' => ['\\', 't']
  | _ =>
    if c < ' ' then ['\\', 'u', '0', '0', hexDigit (c.toNat / 16), hexDigit (c.toNat % 16)]
    else [c]

/-- The form of a text in a string. -/
def escape (cs : List Char) : List Char :=
  cs.flatMap escapeChar

end StandbyStream.Json
