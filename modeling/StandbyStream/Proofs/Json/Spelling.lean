import StandbyStream.Json.Escape
import StandbyStream.Json.Token
import StandbyStream.Proofs.Text.Reading

/-!
# Strings and numerals as they are written

A text that has been escaped stands between quotes and means the text again (`cutString_escape`,
`unescape_escape`). The numeral of a natural number is read off the text before whatever separates
it from the rest (`read?_ofNat`); it has the number for its value (`natural?_ofNat`) and, as long as
that is kept exactly, is small enough to be read at all (`inRange_ofNat`).
-/

namespace StandbyStream.Json

/-! ## Strings -/

theorem codeUnit_hexDigit {n : Nat} (h : n < 32) :
    codeUnit '0' '0' (hexDigit (n / 16)) (hexDigit (n % 16)) = n ∧
      ['0', '0', hexDigit (n / 16), hexDigit (n % 16)].all Text.isHexDigit = true := by
  have every : ∀ k : Fin 32,
      codeUnit '0' '0' (hexDigit (k.val / 16)) (hexDigit (k.val % 16)) = k.val ∧
        ['0', '0', hexDigit (k.val / 16), hexDigit (k.val % 16)].all Text.isHexDigit = true := by
    decide
  exact every ⟨n, h⟩

theorem toNat_lt_of_lt_space {c : Char} (h : c < ' ') : c.toNat < 32 :=
  h

theorem cutString_escapeChar (c : Char) (cs : List Char) :
    cutString (escapeChar c ++ cs) =
      (cutString cs).map fun cut => (escapeChar c ++ cut.1, cut.2) := by
  unfold escapeChar
  split
  any_goals rfl
  split
  · next h =>
    have hdigits := (codeUnit_hexDigit (toNat_lt_of_lt_space h)).2
    simp only [List.cons_append, List.nil_append, cutString, hdigits, if_true]
  · next hquote hbackslash _ _ _ _ _ h =>
    have hplain : ' ' ≤ c := Char.not_lt.1 h
    rw [List.cons_append, List.nil_append, cutString, if_pos hplain]
    · rfl
    · exact hquote
    · exact fun _ _ _ _ _ hc => (hbackslash hc).elim
    · exact fun _ _ hc => (hbackslash hc).elim

/-- A code unit outside the surrogates means its character. -/
theorem unescape_unit {a b c d : Char} (hhigh : isHighSurrogate (codeUnit a b c d) = false)
    (hlow : isLowSurrogate (codeUnit a b c d) = false) (cs : List Char) :
    unescape ('\\' :: 'u' :: a :: b :: c :: d :: cs) =
      (unescape cs).map (Char.ofNat (codeUnit a b c d) :: ·) := by
  rw [unescape.eq_def]
  simp only [hhigh, hlow, Bool.false_eq_true, if_false]

theorem unescape_escapeChar (c : Char) (cs : List Char) :
    unescape (escapeChar c ++ cs) = (unescape cs).map (c :: ·) := by
  unfold escapeChar
  split
  any_goals rfl
  split
  · next h =>
    have hlt := toNat_lt_of_lt_space h
    have hunit := (codeUnit_hexDigit hlt).1
    -- a control character is no half of a surrogate pair
    have hhigh : isHighSurrogate c.toNat = false := by
      simp only [isHighSurrogate, Bool.and_eq_false_iff, decide_eq_false_iff_not]
      omega
    have hlow : isLowSurrogate c.toNat = false := by
      simp only [isLowSurrogate, Bool.and_eq_false_iff, decide_eq_false_iff_not]
      omega
    rw [← hunit] at hhigh hlow
    have hmeaning := unescape_unit hhigh hlow cs
    rwa [hunit, Char.ofNat_toNat] at hmeaning
  · next hquote hbackslash _ _ _ _ _ h =>
    rw [List.cons_append, List.nil_append, unescape]
    · exact fun _ _ _ _ _ hc => (hbackslash hc).elim
    · exact fun _ _ hc => (hbackslash hc).elim

theorem cutString_escape (cs rest : List Char) :
    cutString (escape cs ++ '"' :: rest) = some (escape cs, rest) := by
  induction cs with
  | nil => rfl
  | cons c cs ih =>
    rw [escape, List.flatMap_cons, List.append_assoc, cutString_escapeChar]
    rw [escape] at ih
    rw [ih]
    rfl

theorem unescape_escape (cs : List Char) : unescape (escape cs) = some cs := by
  induction cs with
  | nil => rfl
  | cons c cs ih =>
    rw [escape, List.flatMap_cons, unescape_escapeChar]
    rw [escape] at ih
    rw [ih, Option.map_some]

/-! ## Numerals -/

/-- What follows a token that has no end of its own: a mark, or nothing. -/
def Separates (rest : List Char) : Prop :=
  ∀ c ∈ rest.head?, c = ',' ∨ c = ':' ∨ c = ']' ∨ c = '\x7d'

namespace Numeral

/-- Only zero is written with a zero in front. -/
theorem isWhole_toDigits (n : Nat) : isWhole (Nat.toDigits 10 n) = true := by
  have hhead : ∀ m, 0 < m → ∃ c cs, Nat.toDigits 10 m = c :: cs ∧ c ≠ '0' := by
    intro m
    induction m using Nat.strongRecOn with
    | ind m ih =>
      intro hm
      by_cases hlt : m < 10
      · have every : ∀ k : Fin 10, 0 < k.val → k.val.digitChar ≠ '0' := by decide
        exact ⟨m.digitChar, [], Nat.toDigits_of_lt_base hlt, every ⟨m, hlt⟩ hm⟩
      · obtain ⟨c, cs, hdigits, hc⟩ := ih (m / 10) (by omega) (by omega)
        refine ⟨c, cs ++ [(m % 10).digitChar], ?_, hc⟩
        rw [Nat.toDigits_of_base_le (by decide) (by omega), hdigits, List.cons_append]
  cases n with
  | zero => rfl
  | succ n =>
    obtain ⟨c, cs, hdigits, hc⟩ := hhead (n + 1) (by omega)
    rw [hdigits, isWhole.eq_def]
    split <;> simp_all

theorem isDigit_of_separates {c : Char} {cs : List Char} (h : Separates (c :: cs)) :
    c.isDigit = false := by
  obtain rfl | rfl | rfl | rfl := h c rfl <;> rfl

theorem digits_append {n : Nat} {rest : List Char} (h : Separates rest) :
    (Nat.toDigits 10 n ++ rest).takeWhile Char.isDigit = Nat.toDigits 10 n ∧
      (Nat.toDigits 10 n ++ rest).dropWhile Char.isDigit = rest := by
  have hdigits : ∀ c ∈ Nat.toDigits 10 n, c.isDigit = true :=
    fun c hc => Nat.isDigit_of_mem_toDigits (by decide) (by decide) hc
  rw [List.takeWhile_append_of_pos hdigits, List.dropWhile_append_of_pos hdigits]
  cases rest with
  | nil => simp
  | cons c cs => simp [isDigit_of_separates h]

theorem readFraction_of_separates {rest : List Char} (h : Separates rest) :
    readFraction rest = some ([], rest) := by
  cases rest with
  | nil => rfl
  | cons c cs => obtain rfl | rfl | rfl | rfl := h c rfl <;> rfl

theorem readExponent_of_separates {rest : List Char} (h : Separates rest) :
    readExponent rest = some (none, rest) := by
  cases rest with
  | nil => rfl
  | cons c cs => obtain rfl | rfl | rfl | rfl := h c rfl <;> rfl

theorem render_ofNat (n : Nat) : (ofNat n).render = Nat.toDigits 10 n := by
  simp [ofNat, render]

theorem sign_toDigits (n : Nat) (rest : List Char) :
    sign (Nat.toDigits 10 n ++ rest) = (false, Nat.toDigits 10 n ++ rest) := by
  cases hdigits : Nat.toDigits 10 n with
  | nil => exact absurd hdigits Nat.toDigits_ne_nil
  | cons c cs =>
    have hc : c.isDigit = true :=
      Nat.isDigit_of_mem_toDigits (b := 10) (n := n) (by decide) (by decide) (by simp [hdigits])
    rw [List.cons_append, sign]
    intro tail heq
    cases heq
    cases hc

theorem read?_ofNat {n : Nat} {rest : List Char} (h : Separates rest) :
    read? ((ofNat n).render ++ rest) = some (ofNat n, rest) := by
  obtain ⟨htake, hdrop⟩ := digits_append (n := n) h
  rw [render_ofNat]
  simp only [read?, sign_toDigits, htake, hdrop, isWhole_toDigits, if_true,
    readFraction_of_separates h, readExponent_of_separates h]
  rfl

theorem natural?_ofNat {n : Nat} (h : n ≤ maxNatural) : (ofNat n).natural? = some n := by
  simp [natural?, ofNat, ofDigits, Nat.ofDigitChars_ten_toDigits, h]

/-- Digits whose value is in bounds are all taken. -/
theorem takeDigits_eq {digits : List Char} {acc : Nat}
    (h : Nat.ofDigitChars 10 digits acc ≤ maxNatural) :
    takeDigits acc digits = (Nat.ofDigitChars 10 digits acc, digits.length) := by
  induction digits generalizing acc with
  | nil => rfl
  | cons c cs ih =>
    rw [Nat.ofDigitChars_cons, Nat.mul_comm] at h ⊢
    have hnext : acc * 10 + (c.toNat - '0'.toNat) ≤ maxNatural :=
      Nat.le_trans (Text.le_ofDigitChars cs _) h
    simp only [takeDigits, if_pos hnext, ih h, List.length_cons]

/-- Rounding to 53 bits at most doubles a number. -/
theorem nearest53_le (n : Nat) : nearest53 n ≤ 2 * n := by
  by_cases hn : n = 0
  · subst hn
    decide
  · have hunit : Nat.pow 2 (n.log2 + 1 - 53) ≤ n :=
      Nat.le_trans (Nat.pow_le_pow_right (by decide) (by omega)) (Nat.log2_self_le hn)
    have hlow : n / Nat.pow 2 (n.log2 + 1 - 53) * Nat.pow 2 (n.log2 + 1 - 53) ≤ n :=
      Nat.div_mul_le_self ..
    rw [nearest53]
    split
    · omega
    · rw [Nat.add_mul, Nat.one_mul]
      omega

/-- A number that is kept exactly is never too large. -/
theorem inRange_ofNat {n : Nat} (h : n ≤ maxNatural) : (ofNat n).inRange = true := by
  have hvalue : Nat.ofDigitChars 10 (Nat.toDigits 10 n) 0 = n := Nat.ofDigitChars_ten_toDigits
  have htake : takeDigits 0 (Nat.toDigits 10 n) = (n, (Nat.toDigits 10 n).length) := by
    rw [takeDigits_eq (by rwa [hvalue]), hvalue]
  have hone : nearest53 (Nat.pow 10 0) = 1 := by decide
  have hbound : 2 * maxNatural < Text.binaryBound := by decide +kernel
  have hsmall := nearest53_le n
  have hover : overflows n 0 = false := by
    have hbelow : ¬Text.binaryBound ≤ nearest53 n * nearest53 (Nat.pow 10 0) := by
      rw [hone, Nat.mul_one]
      omega
    have hpower : ¬0 > maxPower := by decide
    change (n != 0 && (decide (0 > maxPower) ||
      decide (nearest53 n * nearest53 (Nat.pow 10 0) ≥ Text.binaryBound))) = false
    rw [decide_eq_false hpower, decide_eq_false hbelow, Bool.or_false, Bool.and_false]
  simp [inRange, ofNat, htake, takeDigits, hover]

end Numeral

end StandbyStream.Json
