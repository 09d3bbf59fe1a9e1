import StandbyStream.Json.Numeral
import StandbyStream.Text.Digits

/-!
# JSON tokens

The words and marks of a JSON text. Strings keep their escapes: what stands
between the quotes is only checked for its form, so that a string that nobody
looks into may hold half of a surrogate pair.
-/

namespace StandbyStream.Json

/-- A word or mark. -/
inductive Token where
  | openBracket
  | closeBracket
  | openBrace
  | closeBrace
  | colon
  | comma
  | null
  | bool (value : Bool)
  | number (numeral : Numeral)
  /-- What stands between the quotes, with its escapes. -/
  | string (body : List Char)
  deriving DecidableEq, Repr

/-- White space between tokens. -/
def isSpace (c : Char) : Bool :=
  c == ' ' || c == '\n' || c == '\t' || c == '\r'

/-- A letter that may follow a backslash, `u` aside. -/
def isEscape (c : Char) : Bool :=
  ['"', '\\', '/', 'b', 'f', 'n', 'r', 't'].contains c

/-- Cuts what follows an opening quote at the closing one. Control characters are refused. -/
def cutString : List Char → Option (List Char × List Char)
  | [] => none
  | '"' :: rest => some ([], rest)
  | '\\' :: 'u' :: a :: b :: c :: d :: rest =>
    if [a, b, c, d].all Text.isHexDigit then
      (cutString rest).map fun cut => ('\\' :: 'u' :: a :: b :: c :: d :: cut.1, cut.2)
    else none
  | '\\' :: c :: rest =>
    if isEscape c then (cutString rest).map fun cut => ('\\' :: c :: cut.1, cut.2) else none
  | c :: rest =>
    if ' ' ≤ c then (cutString rest).map fun cut => (c :: cut.1, cut.2) else none

/-- Reads the token at the start of a text. -/
def Token.read? : List Char → Option (Token × List Char)
  | '[' :: rest => some (.openBracket, rest)
  | ']' :: rest => some (.closeBracket, rest)
  | '{' :: rest => some (.openBrace, rest)
  | '}' :: rest => some (.closeBrace, rest)
  | ':' :: rest => some (.colon, rest)
  | ',' :: rest => some (.comma, rest)
  | '"' :: rest => (cutString rest).map fun cut => (.string cut.1, cut.2)
  | 'n' :: rest => (Text.afterLead ['u', 'l', 'l'] rest).map fun rest => (.null, rest)
  | 't' :: rest => (Text.afterLead ['r', 'u', 'e'] rest).map fun rest => (.bool true, rest)
  | 'f' :: rest => (Text.afterLead ['a', 'l', 's', 'e'] rest).map fun rest => (.bool false, rest)
  | cs => (Numeral.read? cs).map fun (numeral, rest) => (.number numeral, rest)

/-! ## Every token takes something -/

theorem length_cutString {cs body rest : List Char} (h : cutString cs = some (body, rest)) :
    rest.length < cs.length := by
  fun_induction cutString cs generalizing body rest <;> simp_all <;> grind

theorem length_afterLead {lead cs rest : List Char} (h : Text.afterLead lead cs = some rest) :
    rest.length ≤ cs.length := by
  rw [Text.eq_append_of_afterLead h]
  simp

theorem length_dropWhile_le (p : Char → Bool) (cs : List Char) :
    (cs.dropWhile p).length ≤ cs.length :=
  (List.dropWhile_sublist p).length_le

namespace Numeral

theorem length_readFraction {cs fraction rest : List Char}
    (h : readFraction cs = some (fraction, rest)) : rest.length ≤ cs.length := by
  fun_cases readFraction cs with
  | case1 => simp_all [readFraction]
  | case2 cs =>
    have := length_dropWhile_le Char.isDigit cs
    simp_all [readFraction]
    grind
  | case3 => simp_all [readFraction]

theorem length_exponentSign (cs : List Char) : (exponentSign cs).2.length ≤ cs.length := by
  fun_cases exponentSign cs <;> simp

theorem length_readExponent {cs rest : List Char} {exponent : Option Exponent}
    (h : readExponent cs = some (exponent, rest)) : rest.length ≤ cs.length := by
  cases cs with
  | nil => simp_all [readExponent]
  | cons c tail =>
    have sign := length_exponentSign tail
    have digits := length_dropWhile_le Char.isDigit (exponentSign tail).2
    simp only [readExponent] at h
    grind

theorem length_sign (cs : List Char) : (sign cs).2.length ≤ cs.length := by
  fun_cases sign cs <;> simp

theorem length_dropWhile_lt {cs : List Char} (h : isWhole (cs.takeWhile Char.isDigit)) :
    (cs.dropWhile Char.isDigit).length < cs.length := by
  cases cs with
  | nil => simp [isWhole] at h
  | cons c tail =>
    by_cases hc : Char.isDigit c
    · have := length_dropWhile_le Char.isDigit tail
      simp only [List.dropWhile_cons, hc, List.length_cons]
      grind
    · simp [hc, isWhole] at h

theorem length_read? {cs rest : List Char} {n : Numeral} (h : read? cs = some (n, rest)) :
    rest.length < cs.length := by
  simp only [read?] at h
  split at h
  · rename_i hwhole
    split at h
    · simp at h
    · rename_i hfraction
      split at h
      · simp at h
      · rename_i hexponent
        have := length_sign cs
        have := length_dropWhile_lt hwhole
        have := length_readFraction hfraction
        have := length_readExponent hexponent
        grind
  · simp at h

end Numeral

theorem Token.length_read? {cs rest : List Char} {token : Token}
    (h : read? cs = some (token, rest)) : rest.length < cs.length := by
  have hword {lead tail : List Char} {c : Char} {t : Token}
      (h : (Text.afterLead lead tail).map (fun rest => (t, rest)) = some (token, rest)) :
      rest.length < (c :: tail).length := by
    obtain ⟨r, hr, heq⟩ := Option.map_eq_some_iff.1 h
    have shorter := length_afterLead hr
    simp only [Prod.mk.injEq] at heq
    simp only [List.length_cons, ← heq.2]
    omega
  fun_cases read? cs with
  | case7 tail =>
    obtain ⟨cut, hcut, heq⟩ := Option.map_eq_some_iff.1 h
    have shorter := length_cutString hcut
    simp only [Prod.mk.injEq] at heq
    simp only [List.length_cons, ← heq.2]
    omega
  | case8 tail => exact hword h
  | case9 tail => exact hword h
  | case10 tail => exact hword h
  | case11 =>
    simp only [read?] at h
    obtain ⟨cut, hcut, heq⟩ := Option.map_eq_some_iff.1 h
    have := Numeral.length_read? hcut
    simp_all
  | _ => simp_all [read?]

/-! ## All tokens -/

/-- The tokens of a text. -/
def tokens : List Char → Option (List Token)
  | [] => some []
  | c :: cs =>
    if isSpace c then tokens cs
    else
      match h : Token.read? (c :: cs) with
      | none => none
      | some (token, rest) =>
        have := Token.length_read? h
        (tokens rest).map (token :: ·)
termination_by cs => cs.length
decreasing_by
  · simp only [List.length_cons]
    omega
  · exact Token.length_read? h

end StandbyStream.Json
