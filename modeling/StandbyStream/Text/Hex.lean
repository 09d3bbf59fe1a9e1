import StandbyStream.Text.Digits

/-!
# Bytes in hexadecimal digits

Two digits for each byte, the high half first. Digits of either letter case are
read, and lower case is written, so what was written reads back.
-/

namespace StandbyStream.Text

/-- The digit of a number below sixteen. -/
def hexDigit (n : Nat) : Char :=
  Char.ofNat (if n < 10 then '0'.toNat + n else 'a'.toNat + (n - 10))

/-- The digits of bytes. -/
def toHex : List UInt8 → List Char
  | [] => []
  | byte :: bytes => hexDigit (byte.toNat / 16) :: hexDigit (byte.toNat % 16) :: toHex bytes

/-- The bytes of digits; every byte needs two. -/
def ofHex? : List Char → Option (List UInt8)
  | [] => some []
  | [_] => none
  | high :: low :: cs =>
    match hexDigit? high, hexDigit? low, ofHex? cs with
    | some high, some low, some bytes => some (UInt8.ofNat (high * 16 + low) :: bytes)
    | _, _, _ => none

theorem hexDigit?_hexDigit {n : Nat} (h : n < 16) : hexDigit? (hexDigit n) = some n := by
  have every : ∀ k : Fin 16, hexDigit? (hexDigit k.val) = some k.val := by decide
  exact every ⟨n, h⟩

theorem ofHex?_toHex (bytes : List UInt8) : ofHex? (toHex bytes) = some bytes := by
  induction bytes with
  | nil => rfl
  | cons byte bytes ih =>
    have bound : byte.toNat < 256 := byte.toNat_lt
    have high := hexDigit?_hexDigit (show byte.toNat / 16 < 16 by omega)
    have low := hexDigit?_hexDigit (show byte.toNat % 16 < 16 by omega)
    have whole : byte.toNat / 16 * 16 + byte.toNat % 16 = byte.toNat := by omega
    simp [toHex, ofHex?, high, low, ih, whole]

end StandbyStream.Text
