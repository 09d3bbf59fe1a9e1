import StandbyStream.Json.Meaning
import StandbyStream.Proofs.Json.Spelling

/-!
# What is written reads back

A document whose strings and numerals are legible is read back from its written form
(`read?_render`). The tokens of the written form are those of the document (`tokens_render`), and
the reader puts them together again: behind the tokens of a document it stands where it would stand
had it been handed the document as a whole (`foldlM_toTokens`).
-/

namespace StandbyStream.Json

theorem tokens_cons {c : Char} {cs rest : List Char} {token : Token} (hc : isSpace c = false)
    (h : Token.read? (c :: cs) = some (token, rest)) :
    tokens (c :: cs) = (tokens rest).map (token :: ·) := by
  rw [tokens, if_neg (by simp [hc])]
  split
  · next hnone => rw [h] at hnone; cases hnone
  · next hsome =>
    rw [h] at hsome
    cases hsome
    rfl

/-- A text that is one token, whatever mark comes behind it. -/
def Writes (cs : List Char) (token : Token) : Prop :=
  ∀ rest, Separates rest → tokens (cs ++ rest) = (tokens rest).map (token :: ·)

theorem writes_escape (cs : List Char) :
    Writes ('"' :: escape cs ++ ['"']) (.string (escape cs)) := by
  intro rest _
  rw [List.cons_append, List.cons_append, List.append_assoc, List.singleton_append]
  refine tokens_cons rfl ?_
  rw [Token.read?, cutString_escape, Option.map_some]

theorem writes_ofNat (n : Nat) : Writes (Numeral.ofNat n).render (.number (.ofNat n)) := by
  intro rest hrest
  have hread := Numeral.read?_ofNat (n := n) hrest
  rw [Numeral.render_ofNat] at hread ⊢
  cases hdigits : Nat.toDigits 10 n with
  | nil => exact absurd hdigits Nat.toDigits_ne_nil
  | cons c cs =>
    have hc : c.isDigit = true :=
      Nat.isDigit_of_mem_toDigits (b := 10) (n := n) (by decide) (by decide) (by simp [hdigits])
    rw [hdigits, List.cons_append] at hread
    -- a digit begins no token but a number
    have hne : ∀ d : Char, d.isDigit = false → c ≠ d := by
      rintro d hd rfl
      rw [hc] at hd
      cases hd
    have htoken : Token.read? (c :: (cs ++ rest)) = some (.number (.ofNat n), rest) := by
      rw [Token.read?]
      · rw [hread, Option.map_some]
      all_goals
        intro tail heq
        cases heq
        exact hne _ rfl rfl
    refine tokens_cons ?_ htoken
    simp [isSpace, hne ' ' rfl, hne '\n' rfl, hne '\t' rfl, hne '\r' rfl]

namespace Document

mutual

/-- Every string and every numeral reads back on its own. -/
def Legible : Document → Prop
  | .number numeral => Writes numeral.render (.number numeral)
  | .string body => Writes ('"' :: body ++ ['"']) (.string body)
  | .array items => LegibleItems items
  | .object members => LegibleMembers members
  | _ => True

/-- Every item is legible. -/
def LegibleItems : List Document → Prop
  | [] => True
  | item :: items => Legible item ∧ LegibleItems items

/-- Every key and every item is legible. -/
def LegibleMembers : List (List Char × Document) → Prop
  | [] => True
  | (key, item) :: members =>
    Writes ('"' :: key ++ ['"']) (.string key) ∧ Legible item ∧ LegibleMembers members

end

mutual

/-- The tokens of the written form. -/
def toTokens : Document → List Token
  | .null => [.null]
  | .bool value => [.bool value]
  | .number numeral => [.number numeral]
  | .string body => [.string body]
  | .array [] => [.openBracket, .closeBracket]
  | .array (item :: items) => .openBracket :: toTokens item ++ itemTokens items
  | .object [] => [.openBrace, .closeBrace]
  | .object ((key, item) :: members) =>
    .openBrace :: .string key :: .colon :: toTokens item ++ memberTokens members

/-- The tokens of the items of an array behind its first, and of its end. -/
def itemTokens : List Document → List Token
  | [] => [.closeBracket]
  | item :: items => .comma :: toTokens item ++ itemTokens items

/-- The tokens of the members of an object behind its first, and of its end. -/
def memberTokens : List (List Char × Document) → List Token
  | [] => [.closeBrace]
  | (key, item) :: members =>
    .comma :: .string key :: .colon :: toTokens item ++ memberTokens members

end

theorem separates_renderItems (items : List Document) (rest : List Char) :
    Separates (renderItems items ++ rest) := by
  cases items with
  | nil => simp [renderItems, Separates]
  | cons item items => simp [renderItems, Separates]

theorem separates_renderMembers (members : List (List Char × Document)) (rest : List Char) :
    Separates (renderMembers members ++ rest) := by
  cases members with
  | nil => simp [renderMembers, Separates]
  | cons member members => simp [renderMembers, Separates]

theorem map_append_append (front back : List Token) (ts : Option (List Token)) :
    (ts.map (back ++ ·)).map (front ++ ·) = ts.map ((front ++ back) ++ ·) := by
  cases ts <;> simp

/-- A key and its colon are two tokens. -/
theorem tokens_key {key : List Char} (h : Writes ('"' :: key ++ ['"']) (.string key))
    (cs : List Char) :
    tokens ('"' :: (key ++ '"' :: ':' :: cs)) =
      (tokens cs).map ([.string key, .colon] ++ ·) := by
  have hcolon : tokens (':' :: cs) = _ := tokens_cons rfl rfl
  have hkey := h (':' :: cs) (by simp [Separates])
  rw [hcolon] at hkey
  simpa [Function.comp_def] using hkey

mutual

theorem tokens_render : ∀ {d : Document} {rest : List Char}, d.Legible → Separates rest →
    tokens (render d ++ rest) = (tokens rest).map (toTokens d ++ ·)
  | .null, _, _, _ => tokens_cons rfl rfl
  | .bool true, _, _, _ => tokens_cons rfl rfl
  | .bool false, _, _, _ => tokens_cons rfl rfl
  | .number _, _, hd, hrest => by
    rw [Legible] at hd
    exact hd _ hrest
  | .string _, _, hd, hrest => by
    rw [Legible] at hd
    exact hd _ hrest
  | .array [], rest, _, _ => by
    have hopen : tokens ('[' :: ']' :: rest) = _ := tokens_cons rfl rfl
    have hclose : tokens (']' :: rest) = _ := tokens_cons rfl rfl
    rw [hclose] at hopen
    exact hopen.trans (map_append_append [.openBracket] [.closeBracket] _)
  | .array (item :: items), rest, hd, hrest => by
    rw [Legible, LegibleItems] at hd
    have hitem := tokens_render hd.1 (separates_renderItems items rest)
    rw [tokens_renderItems hd.2 hrest, map_append_append] at hitem
    have hopen : tokens ('[' :: (render item ++ (renderItems items ++ rest))) = _ :=
      tokens_cons rfl rfl
    rw [hitem] at hopen
    rw [render, toTokens, List.cons_append, List.cons_append, List.append_assoc]
    exact hopen.trans (map_append_append [.openBracket] _ _)
  | .object [], rest, _, _ => by
    have hopen : tokens ('\x7b' :: '\x7d' :: rest) = _ := tokens_cons rfl rfl
    have hclose : tokens ('\x7d' :: rest) = _ := tokens_cons rfl rfl
    rw [hclose] at hopen
    exact hopen.trans (map_append_append [.openBrace] [.closeBrace] _)
  | .object ((key, item) :: members), rest, hd, hrest => by
    rw [Legible, LegibleMembers] at hd
    obtain ⟨hkey, hitem, hmembers⟩ := hd
    have hvalue := tokens_render hitem (separates_renderMembers members rest)
    rw [tokens_renderMembers hmembers hrest, map_append_append] at hvalue
    have hfirst := tokens_key hkey (render item ++ (renderMembers members ++ rest))
    rw [hvalue, map_append_append] at hfirst
    have hopen : tokens ('\x7b' :: '"' ::
        (key ++ '"' :: ':' :: (render item ++ (renderMembers members ++ rest)))) = _ :=
      tokens_cons rfl rfl
    rw [hfirst] at hopen
    simpa [render, toTokens, Function.comp_def] using hopen

theorem tokens_renderItems : ∀ {items : List Document} {rest : List Char}, LegibleItems items →
    Separates rest →
      tokens (renderItems items ++ rest) = (tokens rest).map (itemTokens items ++ ·)
  | [], _, _, _ => tokens_cons rfl rfl
  | item :: items, rest, h, hrest => by
    rw [LegibleItems] at h
    have hitem := tokens_render h.1 (separates_renderItems items rest)
    rw [tokens_renderItems h.2 hrest, map_append_append] at hitem
    have hcomma : tokens (',' :: (render item ++ (renderItems items ++ rest))) = _ :=
      tokens_cons rfl rfl
    rw [hitem] at hcomma
    rw [renderItems, itemTokens, List.cons_append, List.cons_append, List.append_assoc]
    exact hcomma.trans (map_append_append [.comma] _ _)

theorem tokens_renderMembers : ∀ {members : List (List Char × Document)} {rest : List Char},
    LegibleMembers members → Separates rest →
      tokens (renderMembers members ++ rest) = (tokens rest).map (memberTokens members ++ ·)
  | [], _, _, _ => tokens_cons rfl rfl
  | (key, item) :: members, rest, h, hrest => by
    rw [LegibleMembers] at h
    obtain ⟨hkey, hitem, hmembers⟩ := h
    have hvalue := tokens_render hitem (separates_renderMembers members rest)
    rw [tokens_renderMembers hmembers hrest, map_append_append] at hvalue
    have hnext := tokens_key hkey (render item ++ (renderMembers members ++ rest))
    rw [hvalue, map_append_append] at hnext
    have hcomma : tokens (',' :: '"' ::
        (key ++ '"' :: ':' :: (render item ++ (renderMembers members ++ rest)))) = _ :=
      tokens_cons rfl rfl
    rw [hnext] at hcomma
    simpa [renderMembers, memberTokens, Function.comp_def] using hcomma

end

/-! ## Documents -/

/-- What opens a value can not close an empty array. -/
theorem step_newArray {token : Token} (h : token ≠ .closeBracket) (outer : List Container) :
    Reader.step (.newArray outer) token =
      Reader.step (.beforeValue (.array [] :: outer)) token := by
  cases token <;> first | rfl | exact absurd rfl h

theorem foldlM_newArray (d : Document) (ts : List Token) (outer : List Container) :
    (toTokens d ++ ts).foldlM Reader.step (.newArray outer) =
      (toTokens d ++ ts).foldlM Reader.step (.beforeValue (.array [] :: outer)) := by
  have hfirst : ∃ token more, toTokens d = token :: more ∧ token ≠ .closeBracket := by
    fun_cases toTokens d <;> simp
  obtain ⟨token, more, hd, htoken⟩ := hfirst
  rw [hd, List.cons_append, List.foldlM_cons, List.foldlM_cons, step_newArray htoken]

mutual

theorem foldlM_toTokens : ∀ (d : Document) (ts : List Token) (outer : List Container),
    (toTokens d ++ ts).foldlM Reader.step (.beforeValue outer) =
      ts.foldlM Reader.step (Reader.put d outer)
  | .null, _, _ => rfl
  | .bool _, _, _ => rfl
  | .number _, _, _ => rfl
  | .string _, _, _ => rfl
  | .array [], _, _ => rfl
  | .array (item :: items), ts, outer => by
    rw [toTokens, List.cons_append, List.cons_append, List.foldlM_cons, List.append_assoc]
    change (toTokens item ++ (itemTokens items ++ ts)).foldlM Reader.step (.newArray outer) = _
    rw [foldlM_newArray, foldlM_toTokens]
    exact foldlM_itemTokens items [item] ts outer
  | .object [], _, _ => rfl
  | .object ((key, item) :: members), ts, outer => by
    rw [toTokens, List.cons_append, List.cons_append, List.cons_append, List.cons_append,
      List.append_assoc]
    change (toTokens item ++ (memberTokens members ++ ts)).foldlM Reader.step
      (.beforeValue (.member [] key :: outer)) = _
    rw [foldlM_toTokens]
    exact foldlM_memberTokens members [(key, item)] ts outer

theorem foldlM_itemTokens : ∀ (items read : List Document) (ts : List Token)
    (outer : List Container),
    (itemTokens items ++ ts).foldlM Reader.step (.inArray read outer) =
      ts.foldlM Reader.step (Reader.put (.array (read.reverse ++ items)) outer)
  | [], read, ts, outer => by
    rw [List.append_nil]
    rfl
  | item :: items, read, ts, outer => by
    rw [itemTokens, List.cons_append, List.cons_append, List.foldlM_cons, List.append_assoc]
    change (toTokens item ++ (itemTokens items ++ ts)).foldlM Reader.step
      (.beforeValue (.array read :: outer)) = _
    rw [foldlM_toTokens]
    have hrest := foldlM_itemTokens items (item :: read) ts outer
    rw [List.reverse_cons, List.append_assoc, List.singleton_append] at hrest
    exact hrest

theorem foldlM_memberTokens : ∀ (members read : List (List Char × Document)) (ts : List Token)
    (outer : List Container),
    (memberTokens members ++ ts).foldlM Reader.step (.inObject read outer) =
      ts.foldlM Reader.step (Reader.put (.object (read.reverse ++ members)) outer)
  | [], read, ts, outer => by
    rw [List.append_nil]
    rfl
  | (key, item) :: members, read, ts, outer => by
    rw [memberTokens, List.cons_append, List.cons_append, List.cons_append, List.cons_append,
      List.append_assoc]
    change (toTokens item ++ (memberTokens members ++ ts)).foldlM Reader.step
      (.beforeValue (.member read key :: outer)) = _
    rw [foldlM_toTokens]
    have hrest := foldlM_memberTokens members ((key, item) :: read) ts outer
    rw [List.reverse_cons, List.append_assoc, List.singleton_append] at hrest
    exact hrest

end

/-- A legible document is read back from its written form. -/
theorem read?_render {d : Document} (h : d.Legible) : read? d.render = some d := by
  have hend : Separates [] := by simp [Separates]
  have htokens := tokens_render h hend
  have hnone : tokens [] = some [] := by rw [tokens]
  rw [List.append_nil, hnone, Option.map_some] at htokens
  rw [read?, htokens, Option.bind_some, foldlM_toTokens]
  rfl

/-! ## Documents that are made -/

theorem legible_ofText (s : String) : (ofText s).Legible := by
  rw [ofText, Legible]
  exact writes_escape s.toList

theorem legible_ofNat (n : Nat) : (ofNat n).Legible := by
  rw [ofNat, Legible]
  exact writes_ofNat n

theorem legible_ofFields {fields : List (String × Document)}
    (h : ∀ field ∈ fields, field.2.Legible) : (ofFields fields).Legible := by
  rw [ofFields, Legible]
  induction fields with
  | nil => simp [LegibleMembers]
  | cons field fields ih =>
    rw [List.forall_mem_cons] at h
    rw [List.map_cons, LegibleMembers]
    exact ⟨writes_escape field.1.toList, h.1, ih h.2⟩

theorem text?_ofText (s : String) : (ofText s).text? = some s := by
  rw [ofText, text?, unescape_escape, Option.map_some, String.ofList_toList]

theorem isMeaningful_ofText (s : String) : (ofText s).isMeaningful = true := by
  rw [ofText, isMeaningful, unescape_escape, Option.isSome_some]

theorem natural?_ofNat {n : Nat} (h : n ≤ Numeral.maxNatural) :
    Datum.natural? (ofNat n) = some n :=
  Numeral.natural?_ofNat h

theorem isMeaningful_ofNat {n : Nat} (h : n ≤ Numeral.maxNatural) :
    (ofNat n).isMeaningful = true := by
  rw [ofNat, isMeaningful, Numeral.inRange_ofNat h]

theorem fields?_ofFields (fields : List (String × Document)) :
    (ofFields fields).fields? = some fields := by
  rw [ofFields, fields?]
  induction fields with
  | nil => rfl
  | cons field fields ih =>
    rw [List.map_cons, List.mapM_cons, ih]
    simp [unescape_escape]

theorem isMeaningful_ofFields {fields : List (String × Document)}
    (h : ∀ field ∈ fields, field.2.isMeaningful = true) :
    (ofFields fields).isMeaningful = true := by
  rw [ofFields, isMeaningful]
  induction fields with
  | nil => rfl
  | cons field fields ih =>
    rw [List.forall_mem_cons] at h
    rw [List.map_cons, areMeaningfulMembers, unescape_escape, h.1, ih h.2]
    rfl

/-- A record of scalars nests no deeper than itself. -/
theorem depth_ofFields {fields : List (String × Document)}
    (h : ∀ field ∈ fields, field.2.depth = 0) : (ofFields fields).depth = 1 := by
  have hmembers :
      depthOfMembers (fields.map fun field => (escape field.1.toList, field.2)) = 0 := by
    induction fields with
    | nil => rfl
    | cons field fields ih =>
      rw [List.forall_mem_cons] at h
      rw [List.map_cons, depthOfMembers, h.1, ih h.2]
      rfl
  rw [ofFields, depth, hmembers]

/-- What has been written of a document is loaded as that document. -/
theorem load?_toText {d : Document} (hlegible : d.Legible) (hdepth : d.depth ≤ maxDepth)
    (hmeaningful : d.isMeaningful = true) : load? (Text.encodeUtf8 d.toText) = some d := by
  rw [load?, Text.decodeUtf8?_encodeUtf8, Option.bind_some, toText, String.toList_ofList,
    read?_render hlegible]
  exact if_pos ⟨hdepth, hmeaningful⟩

/-- A value that is no container, reads back and has a meaning. -/
structure Scalar (d : Document) : Prop where
  legible : d.Legible
  flat : d.depth = 0
  meaningful : d.isMeaningful = true

theorem Scalar.ofText (s : String) : (ofText s).Scalar :=
  ⟨legible_ofText s, rfl, isMeaningful_ofText s⟩

theorem Scalar.ofNat {n : Nat} (h : n ≤ Numeral.maxNatural) : (ofNat n).Scalar :=
  ⟨legible_ofNat n, rfl, isMeaningful_ofNat h⟩

/-- What has been written of a record of scalars is loaded as that record. -/
theorem load?_ofFields {fields : List (String × Document)}
    (h : ∀ field ∈ fields, field.2.Scalar) :
    load? (Text.encodeUtf8 (ofFields fields).toText) = some (ofFields fields) := by
  apply load?_toText
  · exact legible_ofFields fun field hm => (h field hm).legible
  · rw [depth_ofFields fun field hm => (h field hm).flat]
    decide
  · exact isMeaningful_ofFields fun field hm => (h field hm).meaningful

end Document

end StandbyStream.Json
