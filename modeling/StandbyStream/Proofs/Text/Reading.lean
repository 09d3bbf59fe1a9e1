import StandbyStream.Text.Blank
import StandbyStream.Text.Cut
import StandbyStream.Text.Decimal

/-!
# What is read off a text

Margins that are taken off, cuts at a separator and numerals are said here by what the text is put
together from: a text is what is left of it and its margins (`dropSuffixWhile_eq`, `trimChars_eq`),
its two parts and the separator (`cutFirst_eq_some`, `cutLast_eq_some`), a sign and digits
(`readNumber_eq_ok`).
-/

namespace StandbyStream.Text

variable {p : Char → Bool} {sep : Char} {cs : List Char}

/-! ## Margins -/

/-- What is left of a text without the characters at its end that satisfy `p`. -/
def Stripped (p : Char → Bool) (cs body : List Char) : Prop :=
  ∃ suffix, cs = body ++ suffix ∧ (∀ c ∈ suffix, p c = true) ∧ ∀ c ∈ body.getLast?, p c = false

/-- What is left of a text without its blank margin. -/
def Trimmed (cs core : List Char) : Prop :=
  ∃ left right, cs = left ++ core ++ right ∧ (∀ c ∈ left ++ right, isBlank c = true) ∧
    (∀ c ∈ core.head?, isBlank c = false) ∧ ∀ c ∈ core.getLast?, isBlank c = false

theorem dropWhile_eq {rest : List Char} :
    cs.dropWhile p = rest ↔
      ∃ lead, cs = lead ++ rest ∧ (∀ c ∈ lead, p c = true) ∧ ∀ c ∈ rest.head?, p c = false := by
  constructor
  · rintro rfl
    refine ⟨cs.takeWhile p, List.takeWhile_append_dropWhile.symm, ?_, ?_⟩
    · exact List.all_eq_true.1 List.all_takeWhile
    · intro c hc
      have hhead := List.head?_dropWhile_not p cs
      rw [hc] at hhead
      exact hhead
  · rintro ⟨lead, rfl, hlead, hrest⟩
    rw [List.dropWhile_append_of_pos hlead]
    cases rest with
    | nil => rfl
    | cons c rest => exact List.dropWhile_cons_of_neg (by simp [hrest c rfl])

theorem dropSuffixWhile_eq {body : List Char} :
    dropSuffixWhile p cs = body ↔ Stripped p cs body := by
  have hreverse : dropSuffixWhile p cs = body ↔ cs.reverse.dropWhile p = body.reverse :=
    List.reverse_eq_iff
  rw [hreverse, dropWhile_eq]
  constructor
  · rintro ⟨lead, hcs, hlead, hbody⟩
    refine ⟨lead.reverse, ?_, ?_, ?_⟩
    · rw [← List.reverse_inj, hcs, List.reverse_append, List.reverse_reverse]
    · simpa using hlead
    · simpa using hbody
  · rintro ⟨suffix, rfl, hsuffix, hbody⟩
    refine ⟨suffix.reverse, List.reverse_append, ?_, ?_⟩
    · simpa using hsuffix
    · simpa using hbody

theorem trimChars_eq {core : List Char} : trimChars cs = core ↔ Trimmed cs core := by
  rw [trimChars, dropSuffixWhile_eq]
  constructor
  · rintro ⟨right, hmid, hright, hlast⟩
    obtain ⟨left, hcs, hleft, hhead⟩ := dropWhile_eq.1 hmid
    refine ⟨left, right, ?_, List.forall_mem_append.2 ⟨hleft, hright⟩, ?_, hlast⟩
    · rw [hcs, List.append_assoc]
    · intro c hc
      apply hhead
      rw [List.head?_append, hc]
      rfl
  · rintro ⟨left, right, rfl, hblank, hhead, hlast⟩
    obtain ⟨hleft, hright⟩ := List.forall_mem_append.1 hblank
    cases core with
    | nil =>
      have hall : (left ++ [] ++ right).dropWhile isBlank = [] :=
        dropWhile_eq.2 ⟨left ++ right, by simp, hblank, nofun⟩
      exact ⟨[], hall, nofun, nofun⟩
    | cons c core =>
      have hmid : (left ++ c :: core ++ right).dropWhile isBlank = c :: core ++ right :=
        dropWhile_eq.2 ⟨left, List.append_assoc .., hleft, hhead⟩
      exact ⟨right, hmid, hright, hlast⟩

/-- A text is trimmed once and for all. -/
theorem Trimmed.self {core : List Char} (h : Trimmed cs core) : Trimmed core core := by
  obtain ⟨-, -, -, -, hhead, hlast⟩ := h
  exact ⟨[], [], by simp, by simp, hhead, hlast⟩

/-! ## Cuts -/

theorem cutFirst_eq_some {before after : List Char} :
    cutFirst sep cs = some (before, after) ↔ cs = before ++ sep :: after ∧ sep ∉ before := by
  constructor
  · intro h
    refine ⟨eq_append_of_cutFirst h, ?_⟩
    induction cs generalizing before with
    | nil => cases h
    | cons c rest ih =>
      rw [cutFirst] at h
      split at h
      · cases h
        exact List.not_mem_nil
      · next hne =>
        obtain ⟨cut, hcut, heq⟩ := Option.map_eq_some_iff.1 h
        cases heq
        rw [List.mem_cons, not_or]
        exact ⟨Ne.symm hne, ih hcut⟩
  · rintro ⟨rfl, hbefore⟩
    induction before with
    | nil => simp [cutFirst]
    | cons c before ih =>
      rw [List.mem_cons, not_or] at hbefore
      rw [List.cons_append, cutFirst, if_neg (Ne.symm hbefore.1), ih hbefore.2]
      rfl

theorem cutLast_eq_none : cutLast sep cs = none ↔ sep ∉ cs := by
  induction cs with
  | nil => simp [cutLast]
  | cons c rest ih =>
    rw [cutLast, List.mem_cons, not_or, ← ih]
    cases cutLast sep rest with
    | some cut => simp
    | none => simp [eq_comm]

theorem cutLast_eq_some {before after : List Char} :
    cutLast sep cs = some (before, after) ↔ cs = before ++ sep :: after ∧ sep ∉ after := by
  constructor
  · intro h
    induction cs generalizing before with
    | nil => cases h
    | cons c rest ih =>
      rw [cutLast] at h
      split at h
      · next cut hcut =>
        cases h
        obtain ⟨hrest, hafter⟩ := ih hcut
        exact ⟨congrArg (c :: ·) hrest, hafter⟩
      · next hnone =>
        split at h
        · next heq =>
          subst heq
          cases h
          exact ⟨rfl, cutLast_eq_none.1 hnone⟩
        · cases h
  · rintro ⟨rfl, hafter⟩
    induction before with
    | nil => simp [cutLast, cutLast_eq_none.2 hafter]
    | cons c before ih => simp [cutLast, ih]

theorem afterLead_eq_some {lead rest : List Char} :
    afterLead lead cs = some rest ↔ cs = lead ++ rest := by
  refine ⟨eq_append_of_afterLead, ?_⟩
  rintro rfl
  exact afterLead_append lead rest

/-! ## Numerals -/

/-- The text writes a number: an optional plus sign, and then at least one decimal digit. -/
def Writes (cs : List Char) (n : Nat) : Prop :=
  ∃ digits, (cs = digits ∨ cs = '+' :: digits) ∧ digits ≠ [] ∧
    (∀ c ∈ digits, c.isDigit = true) ∧ Nat.ofDigitChars 10 digits 0 = n

/-- A number is written in digits, and they write the number. -/
theorem writes_toDigits (n : Nat) : Writes (Nat.toDigits 10 n) n :=
  ⟨_, .inl rfl, Nat.toDigits_ne_nil,
    fun _ hc => Nat.isDigit_of_mem_toDigits (by decide) (by decide) hc,
    Nat.ofDigitChars_ten_toDigits⟩

/-- Nothing but a sign and digits. -/
theorem Writes.not_mem {n : Nat} {c : Char} (h : Writes cs n) (hplus : c ≠ '+')
    (hdigit : c.isDigit = false) : c ∉ cs := by
  intro hc
  obtain ⟨digits, rfl | rfl, -, hall, -⟩ := h
  · exact absurd (hall c hc) (Bool.eq_false_iff.1 hdigit)
  · rcases List.mem_cons.1 hc with heq | hc
    · exact hplus heq
    · exact absurd (hall c hc) (Bool.eq_false_iff.1 hdigit)

/-- The last character is a digit. -/
theorem Writes.getLast {n : Nat} (h : Writes cs n) :
    ∃ c, cs.getLast? = some c ∧ c.isDigit = true := by
  obtain ⟨digits, hsign, hne, hall, -⟩ := h
  have hlast := List.getLast?_eq_some_getLast hne
  refine ⟨digits.getLast hne, ?_, hall _ (List.getLast_mem hne)⟩
  rcases hsign with rfl | rfl
  · exact hlast
  · rw [List.getLast?_cons, hlast]
    rfl

theorem isBlank_of_isDigit {c : Char} (h : c.isDigit = true) : isBlank c = false := by
  have hdigit : 48 ≤ c.toNat ∧ c.toNat ≤ 57 := Char.isDigit_iff_toNat.1 h
  simp [isBlank, inRanges, blankRanges]
  omega

theorem digit?_eq (c : Char) :
    digit? c = if c.isDigit then some (c.toNat - '0'.toNat) else none := by
  have hdigit : ('0' ≤ c ∧ c ≤ '9') ↔ c.isDigit = true := by
    simp [Char.isDigit, Char.le_def]
  simp only [digit?, hdigit]

/-- Digits only add to the number before them. -/
theorem le_ofDigitChars (digits : List Char) (acc : Nat) :
    acc ≤ Nat.ofDigitChars 10 digits acc := by
  rw [Nat.ofDigitChars_eq_ofDigitChars_zero]
  have := Nat.le_mul_of_pos_left acc (Nat.pow_pos (n := digits.length) (show 0 < 10 by decide))
  omega

theorem readDigits_eq_ok {max acc n : Nat} (h : acc ≤ max) :
    readDigits max acc cs = .ok n ↔
      (∀ c ∈ cs, c.isDigit = true) ∧ Nat.ofDigitChars 10 cs acc = n ∧ n ≤ max := by
  induction cs generalizing acc with
  | nil =>
    rw [readDigits, Except.ok.injEq, Nat.ofDigitChars_nil]
    constructor
    · rintro rfl
      exact ⟨nofun, rfl, h⟩
    · rintro ⟨-, rfl, -⟩
      rfl
  | cons c rest ih =>
    rw [readDigits, digit?_eq, List.forall_mem_cons, Nat.ofDigitChars_cons, Nat.mul_comm 10 acc]
    cases hc : c.isDigit with
    | false => simp
    | true =>
      simp only [if_true]
      split
      · next hnext => rw [ih hnext, true_and]
      · next hover =>
        -- the digits that follow do not make it smaller
        have hle := le_ofDigitChars rest (acc * 10 + (c.toNat - '0'.toNat))
        constructor
        · nofun
        · rintro ⟨-, rfl, hmax⟩
          exact absurd (Nat.le_trans hle hmax) hover

theorem writes_plus {digits : List Char} {n : Nat} :
    Writes ('+' :: digits) n ↔ digits ≠ [] ∧ (∀ c ∈ digits, c.isDigit = true) ∧
      Nat.ofDigitChars 10 digits 0 = n := by
  constructor
  · rintro ⟨_, rfl | heq, hne, hall, hn⟩
    · exact absurd (hall '+' List.mem_cons_self) (by decide)
    · cases heq
      exact ⟨hne, hall, hn⟩
  · intro h
    exact ⟨digits, .inr rfl, h⟩

theorem writes_of_head {n : Nat} (h : cs.head? ≠ some '+') :
    Writes cs n ↔ cs ≠ [] ∧ (∀ c ∈ cs, c.isDigit = true) ∧ Nat.ofDigitChars 10 cs 0 = n := by
  constructor
  · rintro ⟨_, rfl | rfl, hrest⟩
    · exact hrest
    · exact absurd rfl h
  · intro hrest
    exact ⟨cs, .inl rfl, hrest⟩

theorem readNumber_eq_ok {max n : Nat} {s : String} :
    readNumber max s = .ok n ↔ Writes s.toList n ∧ n ≤ max := by
  rw [readNumber]
  split
  · next hs =>
    rw [hs, writes_of_head (by simp)]
    simp
  · next hs =>
    rw [hs, writes_plus]
    simp
  · next digits hne hs =>
    rw [hs, writes_plus, readDigits_eq_ok (Nat.zero_le max), and_iff_right hne, and_assoc]
  · next hnil hplus hplus' =>
    have hhead : s.toList.head? ≠ some '+' := by
      intro hhead
      obtain ⟨digits, hs⟩ := List.head?_eq_some_iff.1 hhead
      exact hplus' digits hs
    rw [writes_of_head hhead, readDigits_eq_ok (Nat.zero_le max), and_iff_right hnil, and_assoc]

theorem readUInt16_eq_ok {s : String} {n : UInt16} :
    readUInt16 s = .ok n ↔ Writes s.toList n.toNat := by
  have hmax : maxOfBits 16 = 65535 := rfl
  constructor
  · intro h
    rw [readUInt16] at h
    cases hm : readNumber (maxOfBits 16) s with
    | error cause =>
      rw [hm] at h
      cases h
    | ok m =>
      rw [hm] at h
      cases h
      obtain ⟨hwrites, hle⟩ := readNumber_eq_ok.1 hm
      rwa [UInt16.toNat_ofNat_of_lt' (Nat.lt_succ_of_le hle)]
  · intro h
    have hm := readNumber_eq_ok.2 ⟨h, Nat.le_of_lt_succ n.toNat_lt⟩
    rw [readUInt16, hmax, hm, Except.map, UInt16.ofNat_toNat]

end StandbyStream.Text
