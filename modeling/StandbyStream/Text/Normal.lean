import StandbyStream.Text.Blank
import StandbyStream.Text.NormalTables

/-!
# Normal form

The composed normal form of a text. Every character is taken apart, the marks
behind a letter are put in the order of their combining classes, and letters
are put together again with the marks that nothing blocks.
-/

namespace StandbyStream.Text

/-- The class of a mark among the marks behind one letter, and zero for any other character. -/
def combiningClass (c : Char) : Nat :=
  match combiningClasses.find? fun run => run.1 ≤ c.toNat && c.toNat ≤ run.2.1 with
  | some run => run.2.2
  | none => 0

/-! ## Taking apart -/

/-- What a character of a row stands for. -/
def inRow? (rows : List (Nat × String)) (code : Nat) : Option Char :=
  rows.findSome? fun row => if code < row.1 then none else row.2.toList[code - row.1]?

/-- The letters of a Korean syllable: a lead, a vowel and perhaps a tail. -/
def syllableLetters? (code : Nat) : Option (List Char) :=
  if code < 0xAC00 ∨ 0xD7A3 < code then none
  else
    let place := code - 0xAC00
    let tail := place % 28
    some ([Char.ofNat (0x1100 + place / 588), Char.ofNat (0x1161 + place % 588 / 28)] ++
      if tail = 0 then [] else [Char.ofNat (0x11A7 + tail)])

/-- Takes a character apart. What then comes first may come apart again, at most `depth` times. -/
def takeApart : Nat → Char → List Char
  | 0, c => [c]
  | depth + 1, c =>
    match canonicalPairs.find? (·.1 == c.toNat) with
    | some (_, first, second) => takeApart depth (Char.ofNat first) ++ [Char.ofNat second]
    | none => [(inRow? canonicalRows c.toNat).getD c]

/-- All that a character consists of; no character comes apart in more than three steps. -/
def decompose (c : Char) : List Char :=
  if c.toNat < 0xC0 then [c] else (syllableLetters? c.toNat).getD (takeApart 3 c)

/-! ## Order of marks -/

/-- Puts a character behind a text that is held back to front. A mark goes in front of marks of
higher classes and never past a character that is no mark. -/
def place (c : Char) : List Char → List Char
  | [] => [c]
  | d :: before =>
    if combiningClass c ≠ 0 ∧ combiningClass c < combiningClass d then d :: place c before
    else c :: d :: before

/-- The text with its marks in order. -/
def orderMarks (cs : List Char) : List Char :=
  (cs.foldl (fun before c => place c before) []).reverse

/-! ## Putting together -/

/-- The syllable of a lead and a vowel, or of a syllable without a tail and a tail. -/
def syllable? (a b : Char) : Option Char :=
  let first := a.toNat
  let second := b.toNat
  if 0x1100 ≤ first ∧ first ≤ 0x1112 ∧ 0x1161 ≤ second ∧ second ≤ 0x1175 then
    some (Char.ofNat (0xAC00 + ((first - 0x1100) * 21 + (second - 0x1161)) * 28))
  else if 0xAC00 ≤ first ∧ first ≤ 0xD7A3 ∧ (first - 0xAC00) % 28 = 0 ∧ 0x11A8 ≤ second ∧
      second ≤ 0x11C2 then
    some (Char.ofNat (first + (second - 0x11A7)))
  else none

/-- The character that two characters make up. -/
def compose? (a b : Char) : Option Char :=
  if b.toNat < 0x300 then none
  else
    match syllable? a b with
    | some c => some c
    | none =>
      (canonicalPairs.find? fun pair =>
        pair.2.2 == b.toNat && pair.2.1 == a.toNat && !inRanges apartRanges pair.1).map
          fun pair => Char.ofNat pair.1

/-- Puts `letter` together with what follows. The marks passed so far are held back to front; the
last of them blocks every mark that is not of a higher class. -/
def joinMarks (letter : Char) (passed : List Char) : List Char → List Char
  | [] => letter :: passed.reverse
  | c :: rest =>
    let free := match passed with
      | [] => true
      | mark :: _ => combiningClass mark < combiningClass c
    match if free then compose? letter c else none with
    | some joined => joinMarks joined passed rest
    | none =>
      if combiningClass c = 0 then letter :: passed.reverse ++ joinMarks c [] rest
      else joinMarks letter (c :: passed) rest

/-- The text with every letter joined to its marks. -/
def recompose : List Char → List Char
  | [] => []
  | c :: rest => joinMarks c [] rest

/-- The composed normal form of a text. -/
def normalize (cs : List Char) : List Char :=
  recompose (orderMarks (cs.flatMap decompose))

example : normalize ['e', '\u0301'] = ['é'] := by decide +kernel

example : normalize ['\u1112', '\u1161', '\u11ab'] = ['한'] := by decide +kernel

example : normalize ['q', '\u0307', '\u0323'] = ['q', '\u0323', '\u0307'] := by decide +kernel

end StandbyStream.Text
