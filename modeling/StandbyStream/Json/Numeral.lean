import StandbyStream.Text.Binary64
import StandbyStream.Text.Cut

/-!
# JSON numbers

A number as it is written: a sign, whole digits without needless zeros, a
fraction and an exponent. Only two things are ever asked of it: which natural
number it is, if it is one, and whether it is small enough to be read at all.
-/

namespace StandbyStream.Json

/-- The number with the given digits. -/
def ofDigits (digits : List Char) : Nat :=
  Nat.ofDigitChars 10 digits 0

/-- An exponent by its sign and its digits. -/
structure Exponent where
  negative : Bool
  digits : List Char
  deriving DecidableEq, Repr

/-- A number as it is written; no fraction digits where there is no point. -/
structure Numeral where
  negative : Bool
  whole : List Char
  fraction : List Char
  exponent : Option Exponent
  deriving DecidableEq, Repr

namespace Numeral

/-! ## Reading -/

/-- Reads a fraction, if a point begins one; the point needs a digit behind it. -/
def readFraction : List Char → Option (List Char × List Char)
  | '.' :: rest =>
    if rest.takeWhile Char.isDigit = [] then none
    else some (rest.takeWhile Char.isDigit, rest.dropWhile Char.isDigit)
  | cs => some ([], cs)

/-- Takes the sign of an exponent off. -/
def exponentSign : List Char → Bool × List Char
  | '-' :: rest => (true, rest)
  | '+' :: rest => (false, rest)
  | cs => (false, cs)

/-- Reads an exponent, if a letter begins one; it needs a digit. -/
def readExponent : List Char → Option (Option Exponent × List Char)
  | [] => some (none, [])
  | c :: rest =>
    if c = 'e' ∨ c = 'E' then
      let (negative, cs) := exponentSign rest
      if cs.takeWhile Char.isDigit = [] then none
      else some (some ⟨negative, cs.takeWhile Char.isDigit⟩, cs.dropWhile Char.isDigit)
    else some (none, c :: rest)

/-- Whole digits are a single zero or begin with another digit. -/
def isWhole : List Char → Bool
  | [] => false
  | ['0'] => true
  | c :: _ => c != '0'

/-- Takes the sign of a number off. -/
def sign : List Char → Bool × List Char
  | '-' :: rest => (true, rest)
  | cs => (false, cs)

/-- Reads the longest number at the start of a text. -/
def read? (cs : List Char) : Option (Numeral × List Char) :=
  let (negative, cs) := sign cs
  if isWhole (cs.takeWhile Char.isDigit) then
    match readFraction (cs.dropWhile Char.isDigit) with
    | none => none
    | some (fraction, rest) =>
      match readExponent rest with
      | none => none
      | some (exponent, rest) =>
        some (⟨negative, cs.takeWhile Char.isDigit, fraction, exponent⟩, rest)
  else none

/-! ## Writing -/

/-- The written form. -/
def render (n : Numeral) : List Char :=
  (if n.negative then ['-'] else []) ++ n.whole ++
  (if n.fraction = [] then [] else '.' :: n.fraction) ++
  match n.exponent with
  | none => []
  | some e => 'e' :: (if e.negative then ['-'] else []) ++ e.digits

/-- A natural number, written without fraction and exponent. -/
def ofNat (n : Nat) : Numeral :=
  ⟨false, Nat.toDigits 10 n, [], none⟩

/-! ## Value -/

/-- Largest natural number that is kept exactly. -/
def maxNatural : Nat :=
  0xFFFFFFFFFFFFFFFF

/-- The natural number of a numeral without sign, fraction and exponent. -/
def natural? (n : Numeral) : Option Nat :=
  let value := ofDigits n.whole
  if !n.negative ∧ n.fraction = [] ∧ n.exponent = none ∧ value ≤ maxNatural then some value
  else none

/-! ## Range

A number that is not kept exactly becomes a binary one of 53 significant bits.
Its digits are taken as long as their value fits 64 bits, and what is left
counts as a power of ten.
-/

/-- Takes digits onto `acc` while the value stays in bounds; how many were taken. -/
def takeDigits (acc : Nat) : List Char → Nat × Nat
  | [] => (acc, 0)
  | c :: rest =>
    let next := acc * 10 + (c.toNat - '0'.toNat)
    if next ≤ maxNatural then
      let (value, count) := takeDigits next rest
      (value, count + 1)
    else (acc, 0)

/-- The nearest number of 53 significant bits; a tie goes to the even one. -/
def nearest53 (n : Nat) : Nat :=
  let unit := Nat.pow 2 (n.log2 + 1 - 53)
  let low := n / unit
  let twice := 2 * (n % unit)
  if twice < unit ∨ (twice = unit ∧ low % 2 = 0) then low * unit else (low + 1) * unit

/-- The largest power of ten that is a binary number. -/
def maxPower : Nat := 308

/-- Multiplying by this power of ten leaves the binary numbers. -/
def overflows (significand : Nat) (power : Int) : Bool :=
  match power with
  | .negSucc _ => false
  | .ofNat power =>
    significand != 0 && (power > maxPower ||
      nearest53 significand * nearest53 (Nat.pow 10 power) ≥ Text.binaryBound)

/-- Exponents beyond this are not looked at any closer. -/
def maxExponent : Nat := 0x7FFFFFFF

/-- The number is small enough to be read. -/
def inRange (n : Numeral) : Bool :=
  let (upper, wholeCount) := takeDigits 0 n.whole
  let (significand, fractionCount) := takeDigits upper n.fraction
  let power : Int := (n.whole.length - wholeCount : Nat) - fractionCount
  match n.exponent with
  | none => !overflows significand power
  | some e =>
    let size := ofDigits e.digits
    if size > maxExponent then significand == 0 || e.negative
    else !overflows significand (if e.negative then power - size else power + size)

end Numeral

end StandbyStream.Json
