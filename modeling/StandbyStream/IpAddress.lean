import StandbyStream.Text.Cut
import StandbyStream.Text.Decimal
import StandbyStream.Text.Digits

/-!
# IP addresses

The textual forms of IPv4 and IPv6 addresses: four decimal octets, or eight
hexadecimal groups of which one run of zeros may be left out as `::` and the
last two may be written as an IPv4 address.
-/

namespace StandbyStream

/-- An address by its four octets or its eight groups. -/
inductive IpAddress where
  | v4 (octets : List Nat)
  | v6 (groups : List Nat)
  deriving DecidableEq, Repr

namespace IpAddress

/-- The digits at the start of a text, as values, and what follows them. -/
def leadingDigits (digit? : Char → Option Nat) : List Char → List Nat × List Char
  | [] => ([], [])
  | c :: rest =>
    match digit? c with
    | none => ([], c :: rest)
    | some d =>
      let (ds, after) := leadingDigits digit? rest
      (d :: ds, after)

/-- An octet: at most three digits, no leading zero, at most 255. -/
def octet (cs : List Char) : Option (Nat × List Char) :=
  match leadingDigits Text.digit? cs with
  | ([], _) => none
  | ([d], rest) => some (d, rest)
  | (0 :: _, _) => none
  | (digits, rest) =>
    let n := Text.ofDigits 10 digits
    if digits.length ≤ 3 ∧ n ≤ 255 then some (n, rest) else none

/-- `count` more octets, each behind a dot. -/
def moreOctets : Nat → List Char → Option (List Nat × List Char)
  | 0, cs => some ([], cs)
  | count + 1, '.' :: cs => do
    let (o, rest) ← octet cs
    let (os, rest) ← moreOctets count rest
    return (o :: os, rest)
  | _ + 1, _ => none

/-- An IPv4 address at the start of a text. -/
def leadingV4 (cs : List Char) : Option (List Nat × List Char) := do
  let (o, rest) ← octet cs
  let (os, rest) ← moreOctets 3 rest
  return (o :: os, rest)

/-- A group: one to four hexadecimal digits. -/
def group (cs : List Char) : Option (Nat × List Char) :=
  match leadingDigits Text.hexDigit? cs with
  | ([], _) => none
  | (digits, rest) => if digits.length ≤ 4 then some (Text.ofDigits 16 digits, rest) else none

/-- What stands behind the separator; the first of a run of groups has none. -/
def pastColon (first : Bool) (cs : List Char) : Option (List Char) :=
  if first then some cs
  else
    match cs with
    | ':' :: rest => some rest
    | _ => none

/-- The two groups that an IPv4 address stands for. -/
def pairOctets : List Nat → List Nat
  | [a, b, c, d] => [a * 256 + b, c * 256 + d]
  | _ => []

/-- At most `room` groups. The flag tells whether the last two were written as an IPv4 address. -/
def groupRun (first : Bool) : Nat → List Char → List Nat × Bool × List Char
  | 0, cs => ([], false, cs)
  | room + 1, cs =>
    match pastColon first cs with
    | none => ([], false, cs)
    | some inner =>
      match if room = 0 then none else leadingV4 inner with
      | some (octets, rest) => (pairOctets octets, true, rest)
      | none =>
        match group inner with
        | none => ([], false, cs)
        | some (g, rest) =>
          let (gs, dotted, rest) := groupRun false room rest
          (g :: gs, dotted, rest)

/-- An IPv6 address that is the whole text. -/
def parseV6 (cs : List Char) : Option (List Nat) :=
  match groupRun true 8 cs with
  | (front, dotted, rest) =>
    if front.length = 8 then (if rest.isEmpty then some front else none)
    else if dotted then none
    else
      match rest with
      | ':' :: ':' :: rest =>
        match groupRun true (7 - front.length) rest with
        | (back, _, []) =>
          some (front ++ List.replicate (8 - front.length - back.length) 0 ++ back)
        | _ => none
      | _ => none

/-- An IPv4 address that is the whole text. -/
def parseV4 (cs : List Char) : Option (List Nat) :=
  match leadingV4 cs with
  | some (octets, []) => some octets
  | _ => none

/-- Reads an address. -/
def parse (s : String) : Option IpAddress :=
  match parseV4 s.toList with
  | some octets => some (.v4 octets)
  | none => (parseV6 s.toList).map .v6

/-- The address of the machine itself: `127.x.x.x` or `::1`. -/
def isLoopback : IpAddress → Bool
  | .v4 octets => octets.head? == some 127
  | .v6 groups => groups == [0, 0, 0, 0, 0, 0, 0, 1]

example : (parse "::0.0.0.1").map isLoopback = some true := by decide +kernel

example : parse "1:2:3:4:5:6:7::" = some (.v6 [1, 2, 3, 4, 5, 6, 7, 0]) := by decide +kernel

example : parse "127.0.0.01" = none := by decide +kernel

end IpAddress

end StandbyStream
