import StandbyStream.Text.Cut
import StandbyStream.Text.Lowercase
import StandbyStream.Text.Normal
import StandbyStream.Url.DomainTables
import StandbyStream.Url.Punycode

/-!
# Domain names

The processing of an internationalised domain name, as far as it decides
whether the name is accepted and what it reads. Characters are mapped one by
one, the result is put into normal form and cut into labels at the dots, and
each label is checked; a label in Punycode is decoded first.
-/

namespace StandbyStream.Url

/-- ASCII characters that no domain name holds, not even after mapping. -/
def isForbiddenInDomain (c : Char) : Bool :=
  c.toNat ≤ 0x20 || c.toNat == 0x7F ||
    c ∈ ['%', '#', '/', ':', '<', '>', '?', '@', '[', '\\', ']', '^', '|']

/-! ## Mapping -/

/-- What a character of the tables stands for. -/
def tabled? (code : Nat) : Option (List Char) :=
  match mappedRuns.find? fun run => run.1 ≤ code && code ≤ run.2.1 with
  | some (first, _, image) => some [Char.ofNat (image + (code - first))]
  | none =>
    match Text.inRow? mappedRows code with
    | some c => some [c]
    | none =>
      mappedTexts.findSome? fun row =>
        if code < row.1 then none else row.2[code - row.1]?.map String.toList

/-- What a character contributes to a name; `none` where it is not allowed. Letters that the tables
leave alone are put in lower case. -/
def mapDomainChar (c : Char) : Option (List Char) :=
  if c.toNat < 0x80 then some [c.toLower]
  else if Text.inRanges disallowedRanges c.toNat then none
  else if Text.inRanges ignoredRanges c.toNat then some []
  else some ((tabled? c.toNat).getD (Text.lowerChar c))

/-- The mapped name in normal form, unless a character of it is not allowed. -/
def mapDomain (cs : List Char) : Option (List Char) := do
  let parts ← cs.mapM mapDomainChar
  let name := Text.normalize parts.flatten
  if name.any isForbiddenInDomain then none else some name

/-! ## Labels -/

/-- All characters are ASCII. -/
def isAscii (cs : List Char) : Bool :=
  cs.all (·.toNat < 0x80)

/-- A virama, which makes a consonant lose its vowel. -/
def isVirama (c : Char) : Bool :=
  Text.combiningClass c == 9

/-- A mark or sign that does not come between two letters that join. -/
def isPassedOver (c : Char) : Bool :=
  Text.inRanges nonspacingRanges c.toNat || Text.inRanges passedOver c.toNat

/-- Past the marks stands a letter that joins; `side` names the letters that do so on one side. -/
def joinsPastMarks (side : List (Nat × Nat)) (cs : List Char) : Bool :=
  match cs.dropWhile isPassedOver with
  | [] => false
  | c :: _ => Text.inRanges dualJoining c.toNat || Text.inRanges side c.toNat

/-- A joiner stands behind a virama; the non-joiner may instead stand between joining letters. -/
def joinersFit (before : List Char) : List Char → Bool
  | [] => true
  | c :: rest =>
    (if c.toNat == 0x200C || c.toNat == 0x200D then
      before.head?.any isVirama ||
        (c.toNat == 0x200C && joinsPastMarks leftJoining before &&
          joinsPastMarks rightJoining rest)
     else true) && joinersFit (c :: before) rest

/-- A label beyond ASCII: at most a thousand characters, no mark in front, and joiners only where
they may stand. -/
def isSoundLabel (label : List Char) : Bool :=
  label.length ≤ 1000 && (label.head?.all fun c => !Text.inRanges markRanges c.toNat) &&
    joinersFit [] label

/-- The label that a text in Punycode stands for: it has to be in its mapped form already. The text
is ASCII of at most two thousand characters and does not end with a hyphen. -/
def readPunycode (text : List Char) : Option (List Char) :=
  if !isAscii text || text.getLast?.all (· == '-') || 2000 < text.length then none
  else
    match Punycode.decode text with
    | none => none
    | some label => if mapDomain label == some label && isSoundLabel label then some label else none

/-- The label behind its ASCII form, checked; an ASCII label without the Punycode lead is taken
as it is. -/
def decodeLabel (label : List Char) : Option (List Char) :=
  match Text.afterLead "xn--".toList label with
  | some text => readPunycode text
  | none => if isAscii label || isSoundLabel label then some label else none

/-! ## Writing direction -/

/-- Direction of a character. -/
inductive Direction where
  | leftToRight
  | rightToLeft
  | arabicNumber
  | europeanNumber
  | mark
  | neutral
  deriving DecidableEq, Repr

/-- The direction of a character of a mapped name. -/
def direction (c : Char) : Direction :=
  let code := c.toNat
  if code < 0x80 then
    if c.isDigit then .europeanNumber else if c.isAlpha then .leftToRight else .neutral
  else if Text.inRanges nonspacingRanges code then .mark
  else if Text.inRanges rightToLeftRanges code then .rightToLeft
  else if Text.inRanges arabicNumberRanges code then .arabicNumber
  else if Text.inRanges europeanNumberRanges code then .europeanNumber
  else if Text.inRanges neutralRanges code then .neutral
  else .leftToRight

/-- The last direction that is not that of a mark. -/
def lastDirection (ds : List Direction) : Option Direction :=
  (ds.reverse.dropWhile (· == .mark)).head?

/-- The label reads in one direction: it starts with a letter of that direction, holds nothing of
the other, and ends with a letter of it or a number. -/
def readsOneWay (label : List Char) : Bool :=
  let ds := label.map direction
  match ds with
  | [] => true
  | .leftToRight :: _ =>
    ds.all (fun d => d != .rightToLeft && d != .arabicNumber) &&
      (lastDirection ds == some .leftToRight || lastDirection ds == some .europeanNumber)
  | .rightToLeft :: _ =>
    ds.all (· != .leftToRight) &&
      (lastDirection ds == some .rightToLeft || lastDirection ds == some .europeanNumber ||
        lastDirection ds == some .arabicNumber) &&
      !(ds.contains .europeanNumber && ds.contains .arabicNumber)
  | _ => false

/-- A name with a right-to-left character in it. -/
def isBidirectional (labels : List (List Char)) : Bool :=
  labels.any (·.any fun c => direction c == .rightToLeft || direction c == .arabicNumber)

/-- The labels of an accepted domain name, mapped and decoded. -/
def domainLabels (cs : List Char) : Option (List (List Char)) := do
  let name ← mapDomain cs
  let labels ← (Text.splitAtEach '.' name).mapM decodeLabel
  if isBidirectional labels && !labels.all readsOneWay then none else some labels

/-- An accepted domain name, its labels joined by dots. -/
def domainName (cs : List Char) : Option (List Char) :=
  (domainLabels cs).map (['.'].intercalate ·)

end StandbyStream.Url
