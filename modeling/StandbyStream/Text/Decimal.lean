/-!
# Unsigned decimal numbers

Reading of a bounded number: an optional plus sign and at least one decimal
digit, leading zeros allowed. The three ways to fail are told apart.
-/

namespace StandbyStream.Text

/-- Why a text is no number of the wanted width. -/
inductive NumberError where
  | missing
  | badDigit
  | tooLarge
  deriving DecidableEq, Repr

/-- The wording of a number error. -/
def NumberError.message : NumberError → String
  | .missing => "cannot parse integer from empty string"
  | .badDigit => "invalid digit found in string"
  | .tooLarge => "number too large to fit in target type"

/-- Value of an ASCII decimal digit. -/
def digit? (c : Char) : Option Nat :=
  if '0' ≤ c ∧ c ≤ '9' then some (c.toNat - '0'.toNat) else none

/-- Reads digits onto the value `acc`. The first of the two faults in the text decides: a value
above `max` is seen as soon as the digit that exceeds it is read. -/
def readDigits (max : Nat) (acc : Nat) : List Char → Except NumberError Nat
  | [] => .ok acc
  | c :: rest =>
    match digit? c with
    | none => .error .badDigit
    | some d =>
      if acc * 10 + d ≤ max then readDigits max (acc * 10 + d) rest else .error .tooLarge

/-- Reads a number from `0` to `max`. -/
def readNumber (max : Nat) (s : String) : Except NumberError Nat :=
  match s.toList with
  | [] => .error .missing
  | ['+'] => .error .badDigit
  | '+' :: digits => readDigits max 0 digits
  | digits => readDigits max 0 digits

/-- Largest number of the given width in bits. -/
def maxOfBits (bits : Nat) : Nat :=
  Nat.pow 2 bits - 1

/-- Reads a number below `2 ^ 16`. -/
def readUInt16 (s : String) : Except NumberError UInt16 :=
  (readNumber (maxOfBits 16) s).map UInt16.ofNat

/-- Reads a number below `2 ^ 32`. -/
def readUInt32 (s : String) : Except NumberError UInt32 :=
  (readNumber (maxOfBits 32) s).map UInt32.ofNat

end StandbyStream.Text
