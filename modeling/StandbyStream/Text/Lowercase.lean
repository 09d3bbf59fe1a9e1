import StandbyStream.Text.Blank
import StandbyStream.Text.LetterCase

/-!
# Lower case

The full lower-case mapping of a text: one letter at a time, except that a
dotted capital I becomes two code points and that a capital sigma at the end of
a word becomes the final small sigma.
-/

namespace StandbyStream.Text

/-- The letter takes part in case (`Cased`). -/
def isCased (c : Char) : Bool :=
  inRanges casedRanges c.toNat

/-- The character does not separate the letters of a word (`Case_Ignorable`). -/
def isCaseIgnorable (c : Char) : Bool :=
  inRanges caseIgnorableRanges c.toNat

/-- Lower-case form of one character, without regard to its neighbours. -/
def lowerChar (c : Char) : List Char :=
  if c.toNat < 0x80 then [c.toLower]
  else if c.toNat == 0x130 then ['i', Char.ofNat 0x307]
  else
    match lowerRuns.find? (·.covers c.toNat) with
    | some run => [Char.ofNat ((c.toNat : Int) + run.shift).toNat]
    | none => [c]

/-- Past the ignorable characters stands a cased letter. -/
def meetsCased (cs : List Char) : Bool :=
  match cs.dropWhile isCaseIgnorable with
  | [] => false
  | c :: _ => isCased c

/-- Lower-case form of the rest of a text; `before` holds the characters already passed, the
nearest first. A capital sigma is final when a cased letter comes before it and none after. -/
def lowerAfter (before : List Char) : List Char → List Char
  | [] => []
  | c :: rest =>
    (if c.toNat == 0x3A3 then
        [Char.ofNat (if meetsCased before && !meetsCased rest then 0x3C2 else 0x3C3)]
      else lowerChar c) ++ lowerAfter (c :: before) rest

/-- Full lower-case form of a text. -/
def lowercase (s : String) : String :=
  String.ofList (lowerAfter [] s.toList)

/-- A word of a closed vocabulary, read without regard to its margin and letter case. -/
def fold (s : String) : String :=
  lowercase (trim s)

example : lowercase "H.264" = "h.264" := by decide +kernel

example : lowerAfter [] ['Α', 'Σ'] = ['α', 'ς'] := by decide +kernel

example : lowerAfter [] ['Σ'] = ['σ'] := by decide +kernel

end StandbyStream.Text
