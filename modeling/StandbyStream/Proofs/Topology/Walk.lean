import StandbyStream.Proofs.Topology.Graph

/-!
# Walks

A walk follows the first outputs from stage to stage. It marks the stages that it leaves, so that it
comes to an end in every graph: where nothing leads on, or before it leaves a stage a second time
(`walk`). The check bounds the number of links instead. In a graph whose links join stages of their
own names that is the same (`walk_eq_lastStop`): after as many links as there are stages one has
been left twice, and a walk that comes back to a stage goes on for ever.

Without cycles no stage is left twice, and a walk ends where nothing leads on (`walk_of_acyclic`).
-/

namespace StandbyStream.Topology

open Relation

variable {t : Topology} {seen : List String} {name next : String}

/-- Number of links out of stages that have not been left. -/
def untrodden (t : Topology) (seen : List String) : Nat :=
  t.links.countP (·.source ∉ seen)

theorem untrodden_cons (h : name ∉ seen) :
    t.untrodden seen = t.untrodden (name :: seen) + (t.outputs name).length := by
  have own : (t.links.filter (·.source == name)).countP (·.source ∉ seen) =
      (t.outputs name).length := by
    rw [outputs, List.length_map, List.countP_eq_length]
    intro link hlink
    have hs : link.source = name := by simpa using (List.mem_filter.1 hlink).2
    simpa [hs] using h
  have others : (t.links.filter (!·.source == name)).countP (·.source ∉ seen) =
      t.untrodden (name :: seen) := by
    rw [List.countP_filter, untrodden]
    refine List.countP_congr fun link _ => ?_
    simp [and_comm]
  rw [untrodden, List.countP_eq_countP_filter_add t.links _ (·.source == name), own, others,
    Nat.add_comm]

/-- Leaving a stage for the first time leaves fewer links to follow. -/
theorem untrodden_lt (ho : (t.outputs name).head? = some next) (h : name ∉ seen) :
    t.untrodden (name :: seen) < t.untrodden seen := by
  obtain ⟨others, ho⟩ := List.head?_eq_some_iff.1 ho
  rw [untrodden_cons h, ho, List.length_cons]
  omega

/-- Follows the first outputs from a stage; `seen` are the stages that have been left. To leave one
of them again is a cycle. -/
def walk (t : Topology) (seen : List String) (name : String) : Except Defect String :=
  match _ : (t.outputs name).head? with
  | none => .ok name
  | some next => if name ∈ seen then .error .cycle else walk t (name :: seen) next
termination_by t.untrodden seen
decreasing_by exact untrodden_lt (by assumption) (by assumption)

theorem walk_of_none (h : (t.outputs name).head? = none) : t.walk seen name = .ok name := by
  rw [walk]
  split
  · rfl
  · next ho => cases h.symm.trans ho

theorem walk_of_some (h : (t.outputs name).head? = some next) :
    t.walk seen name = if name ∈ seen then .error .cycle else t.walk (name :: seen) next := by
  rw [walk]
  split
  · next ho => cases h.symm.trans ho
  · next ho =>
      obtain rfl := Option.some.inj (h.symm.trans ho)
      rfl

/-! ## Walks with a bound -/

theorem lastStop_of_none (h : (t.outputs name).head? = none) (steps : Nat) :
    lastStop t steps name = some name := by
  cases steps <;> simp [lastStop, h]

theorem lastStop_of_some (h : (t.outputs name).head? = some next) (steps : Nat) :
    lastStop t (steps + 1) name = lastStop t steps next := by
  simp [lastStop, h]

/-- From stages that lead to one another no number of links leads to an end. -/
theorem lastStop_of_ring {ring : List String}
    (closed : ∀ a ∈ ring, ∃ b ∈ ring, (t.outputs a).head? = some b) (steps : Nat) :
    ∀ a ∈ ring, lastStop t steps a = none := by
  induction steps with
  | zero =>
      intro a ha
      obtain ⟨b, -, ho⟩ := closed a ha
      simp [lastStop, ho]
  | succ steps ih =>
      intro a ha
      obtain ⟨b, hb, ho⟩ := closed a ha
      rw [lastStop_of_some ho]
      exact ih b hb

/-- The stages that a walk has left before it came to the stage of the name. -/
structure Passed (t : Topology) (seen : List String) (name : String) : Prop where
  once : seen.Nodup
  known : name :: seen ⊆ t.names
  onward : ∀ a ∈ seen, ∃ b ∈ name :: seen, (t.outputs a).head? = some b

namespace Passed

theorem start (h : name ∈ t.names) : t.Passed [] name where
  once := List.nodup_nil
  known := by simpa using h
  onward := by simp

theorem step (h : t.Passed seen name) (hw : t.Wired) (ho : (t.outputs name).head? = some next)
    (fresh : name ∉ seen) : t.Passed (name :: seen) next where
  once := List.nodup_cons.2 ⟨fresh, h.once⟩
  known := List.cons_subset.2 ⟨hw.target_mem (mem_outputs.1 (List.mem_of_head? ho)), h.known⟩
  onward := by
    intro a ha
    rcases List.mem_cons.1 ha with rfl | ha
    · exact ⟨next, List.mem_cons_self, ho⟩
    · obtain ⟨b, hb, ho⟩ := h.onward a ha
      exact ⟨b, List.mem_cons_of_mem _ hb, ho⟩

/-- No more stages are left than there are. -/
theorem length_lt (h : t.Passed seen name) (fresh : name ∉ seen) :
    seen.length < t.stages.length := by
  have hsub := (List.nodup_cons.2 ⟨fresh, h.once⟩).subperm h.known
  rw [← length_names]
  exact hsub.length_le

/-- What a walk that has come back to a stage will find with a bound. -/
theorem lastStop_eq_none (h : t.Passed seen name) (back : name ∈ seen) (steps : Nat) :
    lastStop t steps name = none := by
  have hring : name :: seen ⊆ seen := List.cons_subset.2 ⟨back, List.Subset.refl seen⟩
  refine lastStop_of_ring (fun a ha => ?_) steps name back
  obtain ⟨b, hb, ho⟩ := h.onward a ha
  exact ⟨b, hring hb, ho⟩

/-- The bound that is left to a walk is the number of stages that it has not left. -/
theorem walk_eq (h : t.Passed seen name) (hw : t.Wired) {steps : Nat}
    (hs : seen.length + steps = t.stages.length) :
    t.walk seen name =
      match lastStop t steps name with
      | some last => .ok last
      | none => .error .cycle := by
  induction steps generalizing seen name with
  | zero =>
      -- every stage has been left, so that this one is left a second time
      have back : name ∈ seen := by
        by_contra fresh
        have hlt := h.length_lt fresh
        omega
      cases ho : (t.outputs name).head? with
      | none => rw [walk_of_none ho, lastStop_of_none ho]
      | some next => rw [walk_of_some ho, if_pos back, h.lastStop_eq_none back]
  | succ steps ih =>
      cases ho : (t.outputs name).head? with
      | none => rw [walk_of_none ho, lastStop_of_none ho]
      | some next =>
          rw [walk_of_some ho]
          by_cases back : name ∈ seen
          · rw [if_pos back, h.lastStop_eq_none back]
          · rw [if_neg back, lastStop_of_some ho]
            apply ih (h.step hw ho back)
            rw [List.length_cons]
            omega

end Passed

/-- The bound of the check cuts off no walk that would come to an end. -/
theorem walk_eq_lastStop (hw : t.Wired) (hn : name ∈ t.names) :
    t.walk [] name =
      match lastStop t t.stages.length name with
      | some last => .ok last
      | none => .error .cycle :=
  (Passed.start hn).walk_eq hw (by simp)

/-- The check of a stage is where its walk ends, compared with the sink. -/
theorem checkReach_eq_walk (hw : t.Wired) {sink stage : Stage} (hm : stage ∈ t.stages) :
    t.checkReach sink stage =
      t.walk [] stage.name >>= fun last =>
        if last = sink.name then .ok () else .error (.cutOff stage.name sink.name) := by
  rw [checkReach, walk_eq_lastStop hw (mem_names_of_mem hm)]
  cases lastStop t t.stages.length stage.name with
  | none => rfl
  | some last => rfl

/-! ## Walks without cycles -/

/-- Where there are no cycles a walk ends at a stage that feeds none. -/
theorem walk_of_acyclic (hw : t.Wired) (hc : t.Acyclic) (hn : name ∈ t.names)
    (behind : ∀ a ∈ seen, TransGen t.Feeds a name) :
    ∃ last ∈ t.names, (∀ next, ¬ t.Feeds last next) ∧ t.walk seen name = .ok last := by
  -- what a stage feeds is nearer to an end; the stages that were left lead to where the walk is
  induction name using (hw.wellFounded_fedBy hc).induction generalizing seen with
  | _ name ih =>
      cases ho : (t.outputs name).head? with
      | none =>
          refine ⟨name, hn, fun next hf => ?_, walk_of_none ho⟩
          have hnil := List.head?_eq_none_iff.1 ho
          exact List.not_mem_nil (hnil ▸ mem_outputs.2 hf)
      | some next =>
          have hf : t.Feeds name next := mem_outputs.1 (List.mem_of_head? ho)
          have fresh : name ∉ seen := fun back => hc name (behind name back)
          rw [walk_of_some ho, if_neg fresh]
          apply ih next hf (hw.target_mem hf)
          intro a ha
          rcases List.mem_cons.1 ha with rfl | ha
          · exact .single hf
          · exact (behind a ha).tail hf

end StandbyStream.Topology
