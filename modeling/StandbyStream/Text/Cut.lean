/-!
# Cutting texts

Cuts at the first or the last separator and after a fixed lead, on lists of
characters. Each cut loses nothing but the separator or the lead.
-/

namespace StandbyStream.Text

/-- The parts before and after the first separator. -/
def cutFirst (sep : Char) : List Char → Option (List Char × List Char)
  | [] => none
  | c :: rest =>
    if c = sep then some ([], rest)
    else (cutFirst sep rest).map fun cut => (c :: cut.1, cut.2)

/-- The parts before and after the last separator. -/
def cutLast (sep : Char) : List Char → Option (List Char × List Char)
  | [] => none
  | c :: rest =>
    match cutLast sep rest with
    | some cut => some (c :: cut.1, cut.2)
    | none => if c = sep then some ([], rest) else none

/-- The rest of a text that begins with `lead`. -/
def afterLead : List Char → List Char → Option (List Char)
  | [], cs => some cs
  | _ :: _, [] => none
  | l :: lead, c :: cs => if l = c then afterLead lead cs else none

/-- The parts between separators; a text without one is a single part. -/
def splitAtEach (sep : Char) : List Char → List (List Char)
  | [] => [[]]
  | c :: rest =>
    if c = sep then [] :: splitAtEach sep rest
    else
      match splitAtEach sep rest with
      | [] => [[c]]
      | part :: parts => (c :: part) :: parts

/-! ## Nothing is lost -/

theorem eq_append_of_cutFirst {sep : Char} {cs before after : List Char}
    (h : cutFirst sep cs = some (before, after)) : cs = before ++ sep :: after := by
  induction cs generalizing before with
  | nil => simp [cutFirst] at h
  | cons c rest ih =>
    simp only [cutFirst] at h
    split at h
    · simp_all
    · obtain ⟨⟨b, a⟩, hcut, heq⟩ := Option.map_eq_some_iff.1 h
      simp only [Prod.mk.injEq] at heq
      obtain ⟨rfl, rfl⟩ := heq
      simp [ih hcut]

theorem afterLead_append (lead rest : List Char) : afterLead lead (lead ++ rest) = some rest := by
  induction lead with
  | nil => rfl
  | cons l lead ih => simp [afterLead, ih]

theorem eq_append_of_afterLead {lead cs rest : List Char} (h : afterLead lead cs = some rest) :
    cs = lead ++ rest := by
  induction lead generalizing cs with
  | nil => simpa [afterLead] using h
  | cons l lead ih =>
    cases cs with
    | nil => simp [afterLead] at h
    | cons c cs =>
      simp only [afterLead] at h
      split at h
      · rename_i hlc
        simp [hlc, ih h]
      · simp at h

end StandbyStream.Text
