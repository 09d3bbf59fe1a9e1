/-!
# Blank characters

The white space of the Unicode property `White_Space`, and the removal of a
blank margin around a text.
-/

namespace StandbyStream.Text

/-- The ranges of code points with the property `White_Space`, in order. -/
def blankRanges : List (Nat × Nat) :=
  [(0x9, 0xD), (0x20, 0x20), (0x85, 0x85), (0xA0, 0xA0), (0x1680, 0x1680), (0x2000, 0x200A),
    (0x2028, 0x2029), (0x202F, 0x202F), (0x205F, 0x205F), (0x3000, 0x3000)]

/-- A code point lies in one of the ranges. -/
def inRanges (ranges : List (Nat × Nat)) (code : Nat) : Bool :=
  ranges.any fun range => range.1 ≤ code && code ≤ range.2

/-- A character that counts as white space at the margin of a text. -/
def isBlank (c : Char) : Bool :=
  inRanges blankRanges c.toNat

/-- Removes the longest suffix whose characters all satisfy `p`. -/
def dropSuffixWhile (p : Char → Bool) (cs : List Char) : List Char :=
  (cs.reverse.dropWhile p).reverse

/-- Removes the blank margin on both sides. -/
def trimChars (cs : List Char) : List Char :=
  dropSuffixWhile isBlank (cs.dropWhile isBlank)

/-- Removes the blank margin on both sides of a text. -/
def trim (s : String) : String :=
  String.ofList (trimChars s.toList)

/-- A text with nothing but a blank margin. -/
def isAllBlank (s : String) : Bool :=
  s.toList.all isBlank

end StandbyStream.Text
