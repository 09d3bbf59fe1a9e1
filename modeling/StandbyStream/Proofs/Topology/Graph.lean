import Mathlib.Order.WellFoundedSet
import StandbyStream.Topology.Check

/-!
# Topologies as graphs

A topology seen as a relation between stage names: what feeds what. In a graph whose links join
stages of their own names, being free of cycles and being well founded are the same, forwards and
backwards (`Wired.wellFounded_feeds`, `Wired.wellFounded_fedBy`). The number of links into a stage
from stages that are not yet placed is what a topological ordering counts down (`waiting`).
-/

namespace StandbyStream.Topology

open Relation

variable {t : Topology}

/-- The names of the stages, in order. -/
def names (t : Topology) : List String :=
  t.stages.map (·.name)

/-- A link leads from one stage to the other. -/
def Feeds (t : Topology) (a b : String) : Prop :=
  ⟨a, b⟩ ∈ t.links

/-- No stage feeds itself, not even through others. -/
def Acyclic (t : Topology) : Prop :=
  ∀ name, ¬ TransGen t.Feeds name name

/-- Every stage has a name of its own, and every link joins two stages. -/
structure Wired (t : Topology) : Prop where
  distinct : t.names.Nodup
  known : ∀ link ∈ t.links, link.source ∈ t.names ∧ link.target ∈ t.names

theorem mem_names {name : String} : name ∈ t.names ↔ ∃ stage ∈ t.stages, stage.name = name :=
  List.mem_map

theorem mem_names_of_mem {stage : Stage} (h : stage ∈ t.stages) : stage.name ∈ t.names :=
  List.mem_map_of_mem h

@[simp]
theorem length_names (t : Topology) : t.names.length = t.stages.length :=
  List.length_map _

theorem mem_outputs {a b : String} : b ∈ t.outputs a ↔ t.Feeds a b := by
  simp only [outputs, List.mem_map, List.mem_filter, beq_iff_eq, Feeds]
  constructor
  · rintro ⟨⟨source, target⟩, ⟨hmem, rfl⟩, rfl⟩
    exact hmem
  · exact fun hmem => ⟨⟨a, b⟩, ⟨hmem, rfl⟩, rfl⟩

/-! ## Cycles -/

/-- A relation between finitely many names that does not come back to where it began cannot be
followed down without end. -/
theorem wellFounded_of_irreflexive {r : String → String → Prop} {names : List String}
    (within : ∀ a b, r a b → a ∈ names ∧ b ∈ names) (irreflexive : ∀ a, ¬ TransGen r a a) :
    WellFounded r := by
  have order : IsStrictOrder String (TransGen r) :=
    { irrefl := irreflexive, trans := fun _ _ _ => TransGen.trans }
  have wf := Set.wellFoundedOn_iff.1 (Set.Finite.wellFoundedOn (r := TransGen r) names.finite_toSet)
  exact Subrelation.wf (fun hab => ⟨.single hab, within _ _ hab⟩) wf

namespace Wired

theorem source_mem (h : t.Wired) {a b : String} (hab : t.Feeds a b) : a ∈ t.names :=
  (h.known _ hab).1

theorem target_mem (h : t.Wired) {a b : String} (hab : t.Feeds a b) : b ∈ t.names :=
  (h.known _ hab).2

/-- What feeds a stage can be followed back only finitely far. -/
theorem wellFounded_feeds (h : t.Wired) (hc : t.Acyclic) : WellFounded t.Feeds :=
  wellFounded_of_irreflexive (fun _ _ hab => ⟨h.source_mem hab, h.target_mem hab⟩) hc

/-- What a stage feeds can be followed only finitely far. -/
theorem wellFounded_fedBy (h : t.Wired) (hc : t.Acyclic) :
    WellFounded fun b a => t.Feeds a b :=
  wellFounded_of_irreflexive (fun _ _ hab => ⟨h.target_mem hab, h.source_mem hab⟩)
    fun name hn => hc name (transGen_swap.1 hn)

/-- Stages that can be told apart by their names are the same if these are. -/
theorem stage_eq (h : t.Wired) {stage other : Stage} (hs : stage ∈ t.stages)
    (ho : other ∈ t.stages) (heq : stage.name = other.name) : stage = other :=
  List.inj_on_of_nodup_map h.distinct hs ho heq

end Wired

theorem acyclic_of_acc (h : ∀ name, Acc t.Feeds name) : t.Acyclic :=
  fun name hn => (WellFounded.intro h).transGen.irrefl.irrefl name hn

/-! ## Links that are waited for -/

/-- The number of links into a stage from stages that are not placed. -/
def waiting (t : Topology) (placed : List String) (name : String) : Nat :=
  t.links.countP fun link => link.target = name ∧ link.source ∉ placed

theorem waiting_nil (t : Topology) (name : String) : t.waiting [] name = t.fanIn name :=
  List.countP_congr fun link _ => by simp

/-- Something is waited for as long as a stage that is not placed feeds the stage. -/
theorem waiting_pos {placed : List String} {name : String} :
    0 < t.waiting placed name ↔ ∃ a, t.Feeds a name ∧ a ∉ placed := by
  simp only [waiting, List.countP_pos_iff, decide_eq_true_eq, Feeds]
  constructor
  · rintro ⟨⟨a, b⟩, hmem, rfl, ha⟩
    exact ⟨a, hmem, ha⟩
  · rintro ⟨a, hmem, ha⟩
    exact ⟨⟨a, name⟩, hmem, rfl, ha⟩

/-- Once a stage is placed, its links to another are not waited for any more. -/
theorem waiting_cons {placed : List String} {name : String} (h : name ∉ placed) (other : String) :
    t.waiting placed other = t.waiting (name :: placed) other + (t.outputs name).count other := by
  have own : (t.links.filter (·.source == name)).countP
      (fun link => link.target = other ∧ link.source ∉ placed) = (t.outputs name).count other := by
    rw [outputs, List.count, List.countP_map]
    refine List.countP_congr fun link hlink => ?_
    have hs : link.source = name := by simpa using (List.mem_filter.1 hlink).2
    simp [hs, h]
  have others : (t.links.filter (!·.source == name)).countP
      (fun link => link.target = other ∧ link.source ∉ placed) =
        t.waiting (name :: placed) other := by
    rw [List.countP_filter, waiting]
    refine List.countP_congr fun link _ => ?_
    simp only [List.mem_cons, not_or, Bool.and_eq_true, Bool.not_eq_true', decide_eq_true_eq,
      beq_eq_false_iff_ne]
    tauto
  rw [waiting, List.countP_eq_countP_filter_add t.links _ (·.source == name), own, others,
    Nat.add_comm]

end StandbyStream.Topology
