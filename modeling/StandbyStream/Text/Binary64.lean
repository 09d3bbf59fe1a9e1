/-!
# Range of binary numbers

The bound of the floating-point numbers of 64 bits, which documents of every
format keep their larger numbers in.
-/

namespace StandbyStream.Text

/-- Numbers from here on round beyond the largest binary number. -/
def binaryBound : Nat :=
  Nat.pow 2 1024 - Nat.pow 2 970

/-- The number `digits * 10 ^ exponent` rounds beyond the largest binary number. Where the number
of digits already tells, powers are not formed. -/
def exceedsBinary (digits : Nat) (exponent : Int) : Bool :=
  let magnitude := (Nat.toDigits 10 digits).length + exponent
  if digits = 0 ∨ magnitude < 300 then false
  else if magnitude > 310 then true
  else
    match exponent with
    | .ofNat power => binaryBound ≤ digits * Nat.pow 10 power
    | .negSucc power => binaryBound * Nat.pow 10 (power + 1) ≤ digits

end StandbyStream.Text
