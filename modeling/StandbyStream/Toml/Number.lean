import StandbyStream.Text.Binary64
import StandbyStream.Text.Cut
import StandbyStream.Text.Digits

/-!
# Numbers and dates of TOML

Integers of 64 bits in four bases, floating-point numbers, dates and times. Of
the last two only the form matters here.
-/

namespace StandbyStream.Toml

/-- The digits at the start of a text; an underscore may stand between two of them. -/
def digitRun (isDigit : Char → Bool) : List Char → List Char × List Char
  | [] => ([], [])
  | [c] => if isDigit c then ([c], []) else ([], [c])
  | c :: d :: rest =>
    if isDigit c then
      let (digits, after) := digitRun isDigit (d :: rest)
      (c :: digits, after)
    else if c = '_' ∧ isDigit d then
      let (digits, after) := digitRun isDigit rest
      (d :: digits, after)
    else ([], c :: d :: rest)

/-- Reads at least one digit. -/
def digits? (isDigit : Char → Bool) : List Char → Option (List Char × List Char)
  | c :: rest => if isDigit c then some (digitRun isDigit (c :: rest)) else none
  | [] => none

/-- Takes a sign off; tells whether it is a minus. -/
def sign : List Char → Bool × List Char
  | '+' :: rest => (false, rest)
  | '-' :: rest => (true, rest)
  | cs => (false, cs)

/-- Reads the digits of a decimal number; a zero at their start stands alone. -/
def decimal? : List Char → Option (List Char × List Char)
  | '0' :: rest => some (['0'], rest)
  | cs => digits? Char.isDigit cs

/-! ## Integers -/

/-- Bound of the integers: they lie between `-2 ^ 63` and `2 ^ 63 - 1`. -/
def integerBound : Nat :=
  0x8000000000000000

/-- The integer of a sign and a size, if it is in bounds. -/
def bounded? (negative : Bool) (size : Nat) : Option Int :=
  if negative then if size ≤ integerBound then some (-(size : Int)) else none
  else if size < integerBound then some size else none

/-- Reads an integer of another base behind its mark. -/
def radix? (base : Nat) (isDigit : Char → Bool) (cs : List Char) : Option (Int × List Char) :=
  match digits? isDigit cs with
  | none => none
  | some (digits, rest) => (bounded? false (Text.numberOf base digits)).map fun n => (n, rest)

/-- Reads an integer. -/
def integer? : List Char → Option (Int × List Char)
  | '0' :: 'x' :: rest => radix? 16 Text.isHexDigit rest
  | '0' :: 'o' :: rest => radix? 8 (fun c => '0' ≤ c && c ≤ '7') rest
  | '0' :: 'b' :: rest => radix? 2 (fun c => c == '0' || c == '1') rest
  | cs =>
    let (negative, cs) := sign cs
    match decimal? cs with
    | none => none
    | some (digits, rest) => (bounded? negative (Text.numberOf 10 digits)).map fun n => (n, rest)

/-! ## Floating-point numbers -/

/-- Reads a fraction behind its point. -/
def fraction? : List Char → Option (List Char × List Char)
  | '.' :: rest => digits? Char.isDigit rest
  | _ => none

/-- Reads an exponent. -/
def exponent? : List Char → Option (Int × List Char)
  | [] => none
  | c :: rest =>
    if c = 'e' ∨ c = 'E' then
      let (negative, cs) := sign rest
      (digits? Char.isDigit cs).map fun (digits, rest) =>
        let size : Int := Text.numberOf 10 digits
        (if negative then -size else size, rest)
    else none

/-- Passes over the name of a number that is none of the ordinary ones. -/
def special? (cs : List Char) : Option (List Char) :=
  let (_, cs) := sign cs
  (Text.afterLead ['i', 'n', 'f'] cs).or (Text.afterLead ['n', 'a', 'n'] cs)

/-- A number of this sign, whole part, fraction and exponent can be kept. Only positive ones are
asked whether they are too large. -/
def isFloat (negative : Bool) (whole fraction : List Char) (exponent : Int) : Bool :=
  negative ||
    !Text.exceedsBinary (Text.numberOf 10 (whole ++ fraction)) (exponent - fraction.length)

/-- Passes over a floating-point number: digits with a fraction, an exponent or both. -/
def float? (cs : List Char) : Option (List Char) :=
  let ordinary : Option (List Char) :=
    let (negative, cs) := sign cs
    match decimal? cs with
    | none => none
    | some (whole, rest) =>
      match fraction? rest with
      | some (fraction, rest) =>
        let (exponent, rest) := (exponent? rest).getD (0, rest)
        if isFloat negative whole fraction exponent then some rest else none
      | none =>
        match exponent? rest with
        | some (exponent, rest) => if isFloat negative whole [] exponent then some rest else none
        | none => none
  ordinary.or (special? cs)

/-! ## Dates and times -/

/-- Reads a number of two digits that is at most `max`. -/
def twoDigits? (max : Nat) : List Char → Option (Nat × List Char)
  | a :: b :: rest =>
    let n := Text.numberOf 10 [a, b]
    if a.isDigit && b.isDigit && n ≤ max then some (n, rest) else none
  | _ => none

/-- Passes over the given character. -/
def mark? (c : Char) : List Char → Option (List Char)
  | d :: rest => if c = d then some rest else none
  | [] => none

/-- Length of a month. -/
def daysOf (year month : Nat) : Nat :=
  if month = 2 then
    if year % 4 = 0 ∧ (year % 100 ≠ 0 ∨ year % 400 = 0) then 29 else 28
  else if month ∈ [4, 6, 9, 11] then 30
  else 31

/-- Passes over a date. -/
def date? : List Char → Option (List Char)
  | a :: b :: c :: d :: rest =>
    if [a, b, c, d].all Char.isDigit then do
      let rest ← mark? '-' rest
      let (month, rest) ← twoDigits? 12 rest
      let rest ← mark? '-' rest
      let (day, rest) ← twoDigits? 31 rest
      if 1 ≤ month ∧ 1 ≤ day ∧ day ≤ daysOf (Text.numberOf 10 [a, b, c, d]) month then some rest
      else none
    else none
  | _ => none

/-- Passes over the fraction of a second, if there is one. -/
def pastFraction (cs : List Char) : List Char :=
  match cs with
  | '.' :: rest => if rest.takeWhile Char.isDigit = [] then cs else rest.dropWhile Char.isDigit
  | _ => cs

/-- Passes over a time of day; a minute may have a leap second. -/
def time? (cs : List Char) : Option (List Char) := do
  let (_, cs) ← twoDigits? 23 cs
  let cs ← mark? ':' cs
  let (_, cs) ← twoDigits? 59 cs
  let cs ← mark? ':' cs
  let (_, cs) ← twoDigits? 60 cs
  return pastFraction cs

/-- Passes over an offset from universal time. -/
def offset? : List Char → Option (List Char)
  | [] => none
  | c :: rest =>
    if c = 'Z' ∨ c = 'z' then some rest
    else if c = '+' ∨ c = '-' then do
      let (_, cs) ← twoDigits? 23 rest
      let cs ← mark? ':' cs
      let (_, cs) ← twoDigits? 59 cs
      some cs
    else none

/-- Passes over the time behind a date, if there is one. -/
def pastTime (cs : List Char) : List Char :=
  match cs with
  | [] => []
  | c :: rest =>
    if c = 'T' ∨ c = 't' ∨ c = ' ' then
      match time? rest with
      | some rest => (offset? rest).getD rest
      | none => cs
    else cs

/-- Passes over a date, a time, or both. -/
def moment? (cs : List Char) : Option (List Char) :=
  ((date? cs).map pastTime).or (time? cs)

end StandbyStream.Toml
