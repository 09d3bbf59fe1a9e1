/-!
# Digits

Digits up to base sixteen and the numbers that they write.
-/

namespace StandbyStream.Text

/-- Value of a hexadecimal digit of either letter case. -/
def hexDigit? (c : Char) : Option Nat :=
  if '0' ≤ c ∧ c ≤ '9' then some (c.toNat - '0'.toNat)
  else if 'a' ≤ c ∧ c ≤ 'f' then some (c.toNat - 'a'.toNat + 10)
  else if 'A' ≤ c ∧ c ≤ 'F' then some (c.toNat - 'A'.toNat + 10)
  else none

/-- A hexadecimal digit of either letter case. -/
def isHexDigit (c : Char) : Bool :=
  (hexDigit? c).isSome

/-- The number with the given digits, the most significant first. -/
def ofDigits (base : Nat) (digits : List Nat) : Nat :=
  digits.foldl (fun n digit => n * base + digit) 0

/-- The number that a text of digits writes. -/
def numberOf (base : Nat) (cs : List Char) : Nat :=
  ofDigits base (cs.filterMap hexDigit?)

end StandbyStream.Text
