import StandbyStream.Proofs.Topology.Graph

/-!
# Ordering the stages of a graph

The stages are ordered one by one, and it does not matter which of those that are ready comes next:
a `Course` may take any of them. Along every course the counts are the numbers of links that are
still waited for, so that no count is lowered below zero and no stage becomes ready twice
(`Course.tallies`), and each stage is put behind all that feed it (`Course.inOrder`). A course that
cannot be continued has ordered every stage exactly if the graph has no cycle
(`Course.ordered_eq_iff`); the ordering that the check makes is the end of one (`course_ordering`).
-/

namespace StandbyStream.Topology

variable {t : Topology}

/-! ## What is kept -/

/-- Stages in an order in which each comes behind all that feed it, the latest first. -/
inductive InOrder (t : Topology) : List String → Prop
  | nil : InOrder t []
  | cons {name : String} {placed : List String} (member : name ∈ t.names)
      (fresh : name ∉ placed) (fed : ∀ a, t.Feeds a name → a ∈ placed)
      (older : InOrder t placed) : InOrder t (name :: placed)

namespace InOrder

variable {placed : List String} {name : String}

theorem subset (h : t.InOrder placed) : ∀ name ∈ placed, name ∈ t.names := by
  induction h with
  | nil => simp
  | cons member _ _ _ ih => exact List.forall_mem_cons.2 ⟨member, ih⟩

theorem nodup (h : t.InOrder placed) : placed.Nodup := by
  induction h with
  | nil => exact List.nodup_nil
  | cons _ fresh _ _ ih => exact List.nodup_cons.2 ⟨fresh, ih⟩

theorem subperm (h : t.InOrder placed) : placed.Subperm t.names :=
  h.nodup.subperm h.subset

/-- What feeds a placed stage is placed. -/
theorem mem_of_feeds (h : t.InOrder placed) {a b : String} (hab : t.Feeds a b)
    (hb : b ∈ placed) : a ∈ placed := by
  induction h with
  | nil => cases hb
  | cons _ _ fed _ ih =>
      rcases List.mem_cons.1 hb with rfl | hb
      · exact List.mem_cons_of_mem _ (fed a hab)
      · exact List.mem_cons_of_mem _ (ih hb)

/-- The stage that was placed last feeds none of those that are placed. -/
theorem not_mem_of_feeds {other : String} (h : t.InOrder (name :: placed))
    (ho : t.Feeds name other) : other ∉ name :: placed := by
  obtain _ | ⟨_, fresh, fed, older⟩ := h
  intro hm
  rcases List.mem_cons.1 hm with rfl | hm
  · exact fresh (fed _ ho)
  · exact fresh (older.mem_of_feeds ho hm)

/-- What the stage that was placed last feeds are stages still to be placed. -/
theorem outputs (h : t.InOrder (name :: placed)) (hw : t.Wired) :
    ∀ other ∈ t.outputs name, other ∈ t.names ∧ other ∉ name :: placed := by
  intro other ho
  have hf := mem_outputs.1 ho
  exact ⟨hw.target_mem hf, h.not_mem_of_feeds hf⟩

theorem acc (h : t.InOrder placed) : ∀ name ∈ placed, Acc t.Feeds name := by
  induction h with
  | nil => simp
  | cons _ _ fed _ ih =>
      exact List.forall_mem_cons.2 ⟨.intro _ fun a ha => ih a (fed a ha), ih⟩

end InOrder

/-- An ordering in progress counts right: `placed` are the stages it has ordered, `due` those that
are still to be told that one more input is there, once for each link. -/
structure Ordering.Tallies (t : Topology) (placed due : List String) (o : Ordering) : Prop where
  counts : ∀ name ∈ t.names,
    o.pending.lookup name = some (t.waiting placed name + due.count name)
  ready : ∀ name, name ∈ o.ready ↔
    name ∈ t.names ∧ name ∉ placed ∧ t.waiting placed name + due.count name = 0
  once : o.ready.Nodup
  ordered : o.ordered = placed.length

namespace Ordering

theorem lower_cons (name key : String) (count : Nat) (pending : List (String × Nat)) :
    lower name ((key, count) :: pending) =
      (key, if key = name then count - 1 else count) :: lower name pending := by
  by_cases h : key = name <;> simp [lower, h]

theorem lookup_lower (name other : String) (pending : List (String × Nat)) :
    (lower name pending).lookup other =
      (pending.lookup other).map fun count => if other = name then count - 1 else count := by
  induction pending with
  | nil => rfl
  | cons entry pending ih =>
      obtain ⟨key, count⟩ := entry
      rw [lower_cons]
      by_cases h : other = key
      · simp [h]
      · simp [List.lookup_cons, beq_false_of_ne h, ih]

theorem lookup_start {name : String} (h : name ∈ t.names) :
    (start t).pending.lookup name = some (t.fanIn name) := by
  rw [names] at h
  rw [start]
  generalize t.stages = stages at h
  induction stages with
  | nil => cases h
  | cons stage stages ih =>
      by_cases hs : name = stage.name
      · simp [hs]
      · have h := (List.mem_cons.1 h).resolve_left hs
        simpa [List.lookup_cons, beq_false_of_ne hs] using ih h

theorem mem_ready_start {name : String} :
    name ∈ (start t).ready ↔ name ∈ t.names ∧ t.fanIn name = 0 := by
  simp only [start, List.mem_map, List.mem_filter, beq_iff_eq, mem_names]
  constructor
  · rintro ⟨_, ⟨⟨stage, hs, rfl⟩, hz⟩, rfl⟩
    exact ⟨⟨stage, hs, rfl⟩, hz⟩
  · rintro ⟨⟨stage, hs, rfl⟩, hz⟩
    exact ⟨_, ⟨⟨stage, hs, rfl⟩, hz⟩, rfl⟩

theorem nodup_ready_start (h : t.Wired) : (start t).ready.Nodup := by
  have hall : ((start t).pending.map Prod.fst).Nodup := by
    rw [start, List.map_map]
    exact h.distinct
  exact hall.sublist (List.Sublist.map _ List.filter_sublist)

theorem tallies_start (h : t.Wired) : Tallies t [] [] (start t) where
  counts name hn := by
    rw [lookup_start hn, waiting_nil]
    rfl
  ready name := by
    rw [mem_ready_start, waiting_nil]
    simp
  once := nodup_ready_start h
  ordered := rfl

namespace Tallies

variable {placed due : List String} {o : Ordering} {name : String}

/-- A stage that is told of an input had a count above zero, which is now lower by one; it becomes
ready when the count reaches zero. -/
theorem release (h : Tallies t placed (name :: due) o) (hn : name ∈ t.names)
    (fresh : name ∉ placed) : Tallies t placed due (o.release name) := by
  have own : (lower name o.pending).lookup name = some (t.waiting placed name + due.count name) := by
    rw [lookup_lower, h.counts name hn]
    simp
  have counts : ∀ other ∈ t.names,
      (lower name o.pending).lookup other =
        some (t.waiting placed other + due.count other) := by
    intro other ho
    rw [lookup_lower, h.counts other ho]
    by_cases heq : other = name
    · simp [heq]
    · simp [heq, List.count_cons_of_ne (Ne.symm heq)]
  have unready : name ∉ o.ready := by
    rw [h.ready name]
    simp
  -- whether another stage is ready does not depend on this one
  have others : ∀ other, other ≠ name → (other ∈ o.ready ↔
      other ∈ t.names ∧ other ∉ placed ∧ t.waiting placed other + due.count other = 0) := by
    intro other heq
    rw [h.ready other, List.count_cons_of_ne (Ne.symm heq)]
  rw [Ordering.release, own]
  split
  · next hz =>
      have hz : t.waiting placed name + due.count name = 0 := Option.some.inj hz
      refine ⟨counts, fun other => ?_, ?_, h.ordered⟩
      · by_cases heq : other = name
        · subst heq
          simp [hn, fresh, hz]
        · simp [others other heq, heq]
      · rw [List.nodup_append]
        refine ⟨h.once, List.nodup_singleton name, ?_⟩
        rintro a ha _ hb rfl
        exact unready (List.mem_singleton.1 hb ▸ ha)
  · next hz =>
      have hz : t.waiting placed name + due.count name ≠ 0 := fun h0 => hz (congrArg some h0)
      refine ⟨counts, fun other => ?_, h.once, h.ordered⟩
      by_cases heq : other = name
      · subst heq
        exact iff_of_false unready fun hready => hz hready.2.2
      · exact others other heq

theorem releaseAll (h : Tallies t placed due o)
    (hdue : ∀ other ∈ due, other ∈ t.names ∧ other ∉ placed) :
    Tallies t placed [] (due.foldl Ordering.release o) := by
  induction due generalizing o with
  | nil => exact h
  | cons name due ih =>
      obtain ⟨⟨hn, fresh⟩, hdue⟩ := List.forall_mem_cons.1 hdue
      exact ih (h.release hn fresh) hdue

/-- A stage that is ready comes behind all that feed it. -/
theorem inOrder {rest : List String} (h : Tallies t placed [] o) (hi : t.InOrder placed)
    (hr : o.ready.Perm (name :: rest)) : t.InOrder (name :: placed) := by
  obtain ⟨hn, fresh, hz⟩ := (h.ready name).1 (hr.mem_iff.2 List.mem_cons_self)
  refine .cons hn fresh (fun a ha => ?_) hi
  by_contra hp
  have hpos := waiting_pos.2 ⟨a, ha, hp⟩
  omega

/-- The stages of the links out of a stage are due once it has been taken. -/
theorem take {rest : List String} (h : Tallies t placed [] o)
    (hr : o.ready.Perm (name :: rest)) :
    Tallies t (name :: placed) (t.outputs name)
      { o with ready := rest, ordered := o.ordered + 1 } := by
  obtain ⟨hn, fresh, -⟩ := (h.ready name).1 (hr.mem_iff.2 List.mem_cons_self)
  have split := waiting_cons (t := t) fresh
  have once := hr.nodup_iff.1 h.once
  refine ⟨fun other ho => ?_, fun other => ?_, (List.nodup_cons.1 once).2, ?_⟩
  · rw [← split other]
    simpa using h.counts other ho
  · have left : other ∈ rest ↔ other ∈ o.ready ∧ other ≠ name := by
      rw [hr.mem_iff, List.mem_cons]
      constructor
      · intro hm
        refine ⟨.inr hm, ?_⟩
        rintro rfl
        exact (List.nodup_cons.1 once).1 hm
      · rintro ⟨rfl | hm, hne⟩
        · exact absurd rfl hne
        · exact hm
    rw [left, h.ready other, ← split other]
    simp only [List.count_nil, Nat.add_zero, List.mem_cons, not_or]
    tauto
  · simpa using h.ordered

end Tallies

/-! ## Courses -/

/-- What can become of the ordering of a graph: which of the ready stages comes next is open. The
stages that have been ordered come with it, the latest first. -/
inductive Course (t : Topology) : List String → Ordering → Prop
  | start : Course t [] (start t)
  | next {placed rest : List String} {o : Ordering} {name : String} (h : Course t placed o)
      (hr : o.ready.Perm (name :: rest)) : Course t (name :: placed) (place t o name rest)

namespace Course

variable {placed : List String} {o : Ordering}

theorem inOrder_and_tallies (h : Course t placed o) (hw : t.Wired) :
    t.InOrder placed ∧ Tallies t placed [] o := by
  induction h with
  | start => exact ⟨.nil, tallies_start hw⟩
  | @next placed rest o name _ hr ih =>
      obtain ⟨hi, ht⟩ := ih
      have hi := ht.inOrder hi hr
      exact ⟨hi, (ht.take hr).releaseAll (hi.outputs hw)⟩

theorem inOrder (h : Course t placed o) (hw : t.Wired) : t.InOrder placed :=
  (h.inOrder_and_tallies hw).1

theorem tallies (h : Course t placed o) (hw : t.Wired) : Tallies t placed [] o :=
  (h.inOrder_and_tallies hw).2

/-- A stage that is left over when nothing is ready is fed by another one that is left over. -/
theorem exists_left_over (h : Course t placed o) (hw : t.Wired) (hr : o.ready = [])
    {name : String} (hn : name ∈ t.names) (left : name ∉ placed) :
    ∃ a, t.Feeds a name ∧ a ∉ placed := by
  rw [← waiting_pos, Nat.pos_iff_ne_zero]
  intro hz
  have hready := ((h.tallies hw).ready name).2 ⟨hn, left, by simpa using hz⟩
  rw [hr] at hready
  cases hready

theorem mem_placed_of_acyclic (h : Course t placed o) (hw : t.Wired) (hr : o.ready = [])
    (hc : t.Acyclic) : ∀ name ∈ t.names, name ∈ placed := by
  -- without cycles a stage may be looked at after all that feed it
  intro name
  induction name using (hw.wellFounded_feeds hc).induction with
  | _ name ih =>
      intro hn
      by_contra left
      obtain ⟨a, ha, hp⟩ := h.exists_left_over hw hr hn left
      exact hp (ih a ha (hw.source_mem ha))

theorem acyclic_of_mem_placed (h : Course t placed o) (hw : t.Wired)
    (hall : ∀ name ∈ t.names, name ∈ placed) : t.Acyclic := by
  refine acyclic_of_acc fun name => .intro _ fun a ha => ?_
  exact (h.inOrder hw).acc a (hall a (hw.source_mem ha))

/-- All stages are ordered exactly if their number is that of the ordered ones. -/
theorem ordered_eq_iff_mem (h : Course t placed o) (hw : t.Wired) :
    o.ordered = t.stages.length ↔ ∀ name ∈ t.names, name ∈ placed := by
  have hi := h.inOrder hw
  rw [(h.tallies hw).ordered, ← length_names]
  constructor
  · intro heq name hn
    have hperm := hi.subperm.perm_of_length_le heq.ge
    exact hperm.mem_iff.2 hn
  · intro hall
    have hperm := (List.perm_ext_iff_of_nodup hi.nodup hw.distinct).2 fun name =>
      ⟨hi.subset name, hall name⟩
    exact hperm.length_eq

/-- When nothing is ready any more, all stages have been ordered exactly if there is no cycle,
whichever stages were taken first. -/
theorem ordered_eq_iff (h : Course t placed o) (hw : t.Wired) (hr : o.ready = []) :
    o.ordered = t.stages.length ↔ t.Acyclic := by
  rw [h.ordered_eq_iff_mem hw]
  exact ⟨h.acyclic_of_mem_placed hw, h.mem_placed_of_acyclic hw hr⟩

end Course

/-! ## The ordering of the check -/

theorem advance_of_not_ready {o : Ordering} (hr : o.ready = []) : advance t o = o := by
  rw [advance, hr]

theorem run_of_not_ready {o : Ordering} (hr : o.ready = []) (steps : Nat) :
    run t steps o = o := by
  induction steps with
  | zero => rfl
  | succ steps ih => rw [run, advance_of_not_ready hr, ih]

/-- Taking the stage that has been ready longest is one of the ways to go on. Every step orders a
stage, until none is ready. -/
theorem Course.run {placed : List String} {o : Ordering} (h : Course t placed o) (steps : Nat) :
    ∃ placed', Course t placed' (Ordering.run t steps o) ∧
      ((Ordering.run t steps o).ready = [] ∨ placed'.length = placed.length + steps) := by
  induction steps generalizing placed o with
  | zero => exact ⟨placed, h, .inr rfl⟩
  | succ steps ih =>
      cases hr : o.ready with
      | nil =>
          rw [run_of_not_ready hr]
          exact ⟨placed, h, .inl hr⟩
      | cons name rest =>
          have hstep : advance t o = place t o name rest := by rw [advance, hr]
          obtain ⟨placed', h', hend⟩ := ih (h.next (.of_eq hr))
          rw [Ordering.run, hstep]
          refine ⟨placed', h', hend.imp_right fun hl => ?_⟩
          rw [hl, List.length_cons]
          omega

end Ordering

/-- The ordering of the check is the end of a course. -/
theorem course_ordering (hw : t.Wired) :
    ∃ placed, Ordering.Course t placed t.ordering ∧ t.ordering.ready = [] := by
  obtain ⟨placed, h, hend⟩ := Ordering.Course.start.run (t := t) t.stages.length
  refine ⟨placed, h, ?_⟩
  rcases hend with hr | hl
  · exact hr
  · -- as many are placed as there are, so that none is left to be ready
    have hall := (h.ordered_eq_iff_mem hw).1 ((h.tallies hw).ordered.trans (by simpa using hl))
    rw [List.eq_nil_iff_forall_not_mem]
    intro name hm
    obtain ⟨hn, fresh, -⟩ := ((h.tallies hw).ready name).1 hm
    exact fresh (hall name hn)

end StandbyStream.Topology
