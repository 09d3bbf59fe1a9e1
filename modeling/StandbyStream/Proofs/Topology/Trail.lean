import Mathlib.Data.List.Chain
import StandbyStream.Proofs.Topology.Graph

/-!
# Trails

A trail leads from a name to a name, along a relation, until it cannot be continued. Where the
relation leaves no choice a trail is the only way to go: whatever else begins there is a beginning
of it (`Trail.isPrefix`). A relation that leaves no choice in either direction and does not come
back divides the names into trails, one from each name that nothing leads to
(`Lines.perm_flatMap`).
-/

namespace StandbyStream.Topology

open Relation

variable {r : String → String → Prop} {names : List String}

/-- A way along a relation that does not come back passes each name once. -/
theorem nodup_of_isChain (irreflexive : ∀ a, ¬ TransGen r a a) {way : List String}
    (chain : List.IsChain r way) : way.Nodup := by
  have chain : List.IsChain (TransGen r) way := chain.imp fun _ _ => TransGen.single
  refine (List.isChain_iff_pairwise.1 chain).imp ?_
  rintro a b hab rfl
  exact irreflexive a hab

/-- A way that begins with one of the names, along a relation that does not leave them. -/
theorem mem_of_isChain (within : ∀ a b, r a b → b ∈ names) {way : List String}
    (chain : List.IsChain r way) {first : String} (head : way.head? = some first)
    (hf : first ∈ names) : ∀ name ∈ way, name ∈ names := by
  refine chain.induction (· ∈ names) way (fun a b hab _ => within a b hab) fun hne => ?_
  rwa [(List.head_eq_iff_head?_eq_some hne).2 head]

/-- A way along the relation from a name to where it cannot be continued. -/
structure Trail (r : String → String → Prop) (first : String) (way : List String) : Prop where
  head : way.head? = some first
  chain : List.IsChain r way
  ended : ∀ last ∈ way.getLast?, ∀ next, ¬ r last next

/-- The end of a way. -/
def endOf (way : List String) : String :=
  way.getLast?.getD ""

namespace Trail

variable {first : String} {way : List String}

/-- Every way can be followed to an end. -/
theorem exists_of_wellFounded (wf : WellFounded fun b a => r a b) (first : String) :
    ∃ way, Trail r first way := by
  induction first using wf.induction with
  | _ first ih =>
      by_cases h : ∃ next, r first next
      · obtain ⟨next, hn⟩ := h
        obtain ⟨way, head, chain, ended⟩ := ih next hn
        refine ⟨first :: way, rfl, chain.cons ?_, ?_⟩
        · rw [head]
          rintro _ ⟨⟩
          exact hn
        · cases way with
          | nil => cases head
          | cons next' way => rwa [List.getLast?_cons_cons]
      · refine ⟨[first], rfl, List.isChain_singleton first, ?_⟩
        rintro _ ⟨⟩ next hn
        exact h ⟨next, hn⟩

/-- Where there is no choice, whatever begins like a trail is a beginning of it. -/
theorem isPrefix (h : Trail r first way) (single : ∀ a b c, r a b → r a c → b = c)
    {other : List String} (head : other.head? = some first) (chain : List.IsChain r other) :
    other <+: way := by
  -- along the trail: as long as the other way goes on, it has to take the same link
  induction way generalizing first other with
  | nil => cases h.head
  | cons a way ih =>
      obtain rfl : a = first := Option.some.inj h.head
      cases other with
      | nil => exact List.nil_prefix
      | cons b other =>
          obtain rfl : b = a := Option.some.inj head
          cases other with
          | nil => exact List.cons_prefix_cons.2 ⟨rfl, List.nil_prefix⟩
          | cons next other =>
              obtain ⟨hn, chain⟩ := List.isChain_cons_cons.1 chain
              cases way with
              | nil => exact absurd hn (h.ended b rfl next)
              | cons next' way =>
                  obtain ⟨hn', chain'⟩ := List.isChain_cons_cons.1 h.chain
                  obtain rfl := single b next' next hn' hn
                  have ended := h.ended
                  rw [List.getLast?_cons_cons] at ended
                  exact List.cons_prefix_cons.2 ⟨rfl, ih ⟨rfl, chain', ended⟩ rfl chain⟩

theorem eq (h : Trail r first way) (single : ∀ a b c, r a b → r a c → b = c)
    {other : List String} (ho : Trail r first other) : other = way :=
  have hp := h.isPrefix single ho.head ho.chain
  hp.eq_of_length_le (ho.isPrefix single h.head h.chain).length_le

theorem exists_last (h : Trail r first way) : ∃ last, way.getLast? = some last := by
  obtain ⟨after, rfl⟩ := List.head?_eq_some_iff.1 h.head
  exact Option.isSome_iff_exists.1 (by simp)

theorem getLast?_eq (h : Trail r first way) : way.getLast? = some (endOf way) := by
  obtain ⟨last, hl⟩ := h.exists_last
  rw [endOf, hl, Option.getD_some]

theorem endOf_mem (h : Trail r first way) : endOf way ∈ way :=
  List.mem_of_getLast? h.getLast?_eq

/-- A name on the trail from which nothing leads on is the last. -/
theorem getLast?_of_mem (h : Trail r first way) {name : String} (hm : name ∈ way)
    (hend : ∀ next, ¬ r name next) : way.getLast? = some name := by
  obtain ⟨before, after, rfl⟩ := List.append_of_mem hm
  cases after with
  | nil => simp
  | cons next after =>
      have chain := h.chain.right_of_append
      exact absurd (List.isChain_cons_cons.1 chain).1 (hend next)

/-- Where the end of a trail leads to another one by a wider relation, that one continues it. -/
theorem append {wide : String → String → Prop} (h : Trail r first way)
    (widen : ∀ a b, r a b → wide a b) {last next : String} {onward : List String}
    (hl : way.getLast? = some last) (hn : wide last next) (ho : Trail wide next onward) :
    Trail wide first (way ++ onward) where
  head := by
    obtain ⟨after, rfl⟩ := List.head?_eq_some_iff.1 h.head
    rfl
  chain := by
    refine (h.chain.imp widen).append ho.chain fun a ha b hb => ?_
    rwa [Option.mem_unique ha hl, Option.mem_unique hb ho.head]
  ended := by
    obtain ⟨after, rfl⟩ := List.head?_eq_some_iff.1 ho.head
    rw [List.getLast?_append_of_ne_nil _ (by simp)]
    exact ho.ended

/-- Read backwards from a name on it, a trail that nothing leads to is a trail. -/
theorem exists_back (h : Trail r first way) (begun : ∀ a, ¬ r a first) {name : String}
    (hm : name ∈ way) : ∃ back, Trail (fun a b => r b a) name back ∧ back.getLast? = some first := by
  obtain ⟨before, after, rfl⟩ := List.append_of_mem hm
  have head := h.head
  have chain := h.chain
  rw [List.append_cons] at head chain
  have begins : (before ++ [name]).reverse.getLast? = some first := by
    rw [List.getLast?_reverse, ← head]
    simp [List.head?_append]
  refine ⟨(before ++ [name]).reverse, ⟨by simp, ?_, ?_⟩, begins⟩
  · exact List.isChain_reverse.2 chain.left_of_append
  · rw [begins]
    rintro _ ⟨⟩
    exact begun

end Trail

/-! ## Relations that leave no choice -/

/-- A relation between the given names that leads from each to at most one, to each from at most
one, and never back. -/
structure Lines (r : String → String → Prop) (names : List String) : Prop where
  within : ∀ a b, r a b → a ∈ names ∧ b ∈ names
  next_eq : ∀ a b c, r a b → r a c → b = c
  prev_eq : ∀ a b c, r a c → r b c → a = b
  irreflexive : ∀ a, ¬ TransGen r a a

namespace Lines

theorem flip (h : Lines r names) : Lines (fun a b => r b a) names where
  within a b hab := (h.within b a hab).symm
  next_eq a b c hab hac := h.prev_eq b c a hab hac
  prev_eq a b c hac hbc := h.next_eq c a b hac hbc
  irreflexive a ha := h.irreflexive a (transGen_swap.1 ha)

theorem wellFounded (h : Lines r names) : WellFounded r :=
  wellFounded_of_irreflexive h.within h.irreflexive

/-- Every name lies on a trail from a name that nothing leads to. -/
theorem exists_trail (h : Lines r names) {name : String} (hn : name ∈ names) :
    ∃ first way, first ∈ names ∧ (∀ a, ¬ r a first) ∧ Trail r first way ∧ name ∈ way := by
  -- the trail is put together from the ways that lead on from the name and back from it
  obtain ⟨on, hon⟩ := Trail.exists_of_wellFounded h.flip.wellFounded name
  obtain ⟨back, hback⟩ := Trail.exists_of_wellFounded (r := fun a b => r b a) h.wellFounded name
  obtain ⟨first, hf⟩ := hback.exists_last
  obtain ⟨after, rfl⟩ := List.head?_eq_some_iff.1 hon.head
  obtain ⟨before, rfl⟩ := List.head?_eq_some_iff.1 hback.head
  have chain : List.IsChain r (before.reverse ++ [name]) := by
    rw [← List.reverse_cons]
    exact List.isChain_reverse.2 hback.chain
  refine ⟨first, before.reverse ++ name :: after, ?_, hback.ended first hf, ⟨?_, ?_, ?_⟩, ?_⟩
  · have within a b hab := (h.flip.within a b hab).2
    exact mem_of_isChain within hback.chain rfl hn first (List.mem_of_getLast? hf)
  · rw [← hf, ← List.head?_reverse, List.reverse_cons, List.append_cons]
    simp [List.head?_append]
  · rw [List.append_cons]
    exact chain.append_overlap hon.chain (by simp)
  · rw [List.getLast?_append_of_ne_nil _ (by simp)]
    exact hon.ended
  · simp

/-- Trails that nothing leads to and that meet begin with the same name. -/
theorem first_eq (h : Lines r names) {first first' name : String} {way way' : List String}
    (ht : Trail r first way) (begun : ∀ a, ¬ r a first) (hm : name ∈ way)
    (ht' : Trail r first' way') (begun' : ∀ a, ¬ r a first') (hm' : name ∈ way') :
    first = first' := by
  obtain ⟨back, hb, hl⟩ := ht.exists_back begun hm
  obtain ⟨back', hb', hl'⟩ := ht'.exists_back begun' hm'
  obtain rfl := hb.eq h.flip.next_eq hb'
  exact Option.some.inj (hl.symm.trans hl')

/-- The trails from all names that nothing leads to hold every name, and each once. -/
theorem perm_flatMap (h : Lines r names) (distinct : names.Nodup) {firsts : List String}
    (distinct' : firsts.Nodup) (hf : ∀ a, a ∈ firsts ↔ a ∈ names ∧ ∀ b, ¬ r b a)
    {way : String → List String} (hw : ∀ first ∈ firsts, Trail r first (way first)) :
    (firsts.flatMap way).Perm names := by
  have once : (firsts.flatMap way).Nodup := by
    rw [List.nodup_flatMap]
    refine ⟨fun first hm => nodup_of_isChain h.irreflexive (hw first hm).chain, ?_⟩
    refine distinct'.imp_of_mem fun {a b} ha hb hne => ?_
    rw [Function.onFun, List.disjoint_left]
    intro name hm hm'
    exact hne (h.first_eq (hw a ha) ((hf a).1 ha).2 hm (hw b hb) ((hf b).1 hb).2 hm')
  refine (List.perm_ext_iff_of_nodup once distinct).2 fun name => ?_
  rw [List.mem_flatMap]
  constructor
  · rintro ⟨first, hm, hn⟩
    have within a b hab := (h.within a b hab).2
    exact mem_of_isChain within (hw first hm).chain (hw first hm).head ((hf first).1 hm).1 name hn
  · intro hn
    obtain ⟨first, way', hm, begun, ht, hn⟩ := h.exists_trail hn
    have hm := (hf first).2 ⟨hm, begun⟩
    exact ⟨first, hm, (hw first hm).eq h.next_eq ht ▸ hn⟩

end Lines

end StandbyStream.Topology
