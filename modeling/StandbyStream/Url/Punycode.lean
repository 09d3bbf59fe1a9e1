/-!
# Punycode

Reading of the ASCII form of an internationalised label: the ASCII characters
come first, and the others are inserted by a run of variable-length numbers
whose digit thresholds adapt to what has been read.
-/

namespace StandbyStream.Url.Punycode

/-- Value of a digit to the base 36. -/
def digit? (c : Char) : Option Nat :=
  if 'a' ≤ c ∧ c ≤ 'z' then some (c.toNat - 'a'.toNat)
  else if 'A' ≤ c ∧ c ≤ 'Z' then some (c.toNat - 'A'.toNat)
  else if '0' ≤ c ∧ c ≤ '9' then some (c.toNat - '0'.toNat + 26)
  else none

/-- The digit value at which the number ends, for the digit of weight position `k`. -/
def threshold (k bias : Nat) : Nat :=
  if k ≤ bias then 1 else if bias + 26 ≤ k then 26 else k - bias

/-- Divides by 35 until at most 455 is left, counting 36 for each division. -/
def settle (delta : Nat) (k : Nat) : Nat × Nat :=
  if 455 < delta then settle (delta / 35) (k + 36) else (delta, k)
termination_by delta
decreasing_by omega

/-- The bias after an insertion into a label of `count` characters, the new one included. -/
def adapt (delta count : Nat) (first : Bool) : Nat :=
  let scaled := if first then delta / 700 else delta / 2
  let (rest, k) := settle (scaled + scaled / count) 0
  k + 36 * rest / (rest + 38)

/-- Every number on the way stays below this bound. -/
def bound : Nat := 0x100000000

/-- One variable-length number: its value added to `i`, and the unread text. -/
def number (bias : Nat) (i weight k : Nat) : List Char → Option (Nat × List Char)
  | [] => none
  | c :: rest =>
    match digit? c with
    | none => none
    | some d =>
      let t := threshold k bias
      let sum := i + d * weight
      if bound ≤ sum then none
      else if d < t then some (sum, rest)
      else if bound ≤ weight * (36 - t) then none
      else number bias sum (weight * (36 - t)) (k + 36) rest

/-- A code point that is a character. -/
def char? (code : Nat) : Option Char :=
  if code < 0xD800 ∨ (0xE000 ≤ code ∧ code < 0x110000) then some (Char.ofNat code) else none

/-- Inserts characters as long as there is text; every number takes at least one character, so
the length of the text bounds the steps. -/
def insertAll : Nat → List Char → Nat → Nat → Nat → List Char → Option (List Char)
  | _, label, _, _, _, [] => some label
  | 0, _, _, _, _, _ :: _ => none
  | fuel + 1, label, code, i, bias, text =>
    match number bias i 1 36 text with
    | none => none
    | some (sum, rest) =>
      let count := label.length + 1
      let next := code + sum / count
      let place := sum % count
      match char? next with
      | none => none
      | some c =>
        insertAll fuel (label.take place ++ c :: label.drop place) next (place + 1)
          (adapt (sum - i) count (i == 0 && code == 128)) rest

/-- The part before the last hyphen, if that is not the first character, and the part after it. -/
def splitBase (cs : List Char) : List Char × List Char :=
  let tail := (cs.reverse.takeWhile (· ≠ '-')).reverse
  let base := cs.take (cs.length - tail.length - 1)
  if base.isEmpty then ([], cs) else (base, tail)

/-- Reads a label from its ASCII form without the leading `xn--`. -/
def decode (cs : List Char) : Option (List Char) :=
  let (base, text) := splitBase cs
  insertAll text.length base 128 0 72 text

example : decode ("mnchen-3ya".toList) = some ("münchen".toList) := by decide +kernel

end StandbyStream.Url.Punycode
