import StandbyStream.Proofs.Topology.Layout
import StandbyStream.Topology.Build
import StandbyStream.Topology.Chains

/-!
# The chains of a sound topology

A chain follows the links from its start as far as they lead, or to a switch. `Followed` says so
without a bound on the number of links: what is followed comes to an end. In a sound graph that is
so from every stage (`Sound.exists_followed`), along no more links than there are, and the bound in
`chains` cuts nothing off (`Sound.chains_eq`).

The chains hold every link once (`Sound.perm_linksOf`). How often they hold a stage is then a matter
of counting: it is the start of a chain or not, and it is led to as often as it is fed
(`Sound.count_flatMap_rest`).
-/

namespace StandbyStream.Topology

open Relation

variable {t : Topology}

/-! ## Following the links -/

/-- The stages that come after a stage, link by link, until no link leads on or a switch is
reached. -/
inductive Followed (t : Topology) : Stage → List Stage → Prop
  /-- No link leads on. -/
  | ended {start : Stage} (h : t.successor? start.name = none) : Followed t start []
  /-- A switch is reached. -/
  | arrived {start switch : Stage} (h : t.successor? start.name = some switch)
      (hk : switch.kind = .switch) : Followed t start [switch]
  /-- Another stage is passed. -/
  | passed {start stage : Stage} {rest : List Stage} (h : t.successor? start.name = some stage)
      (hk : stage.kind ≠ .switch) (hr : Followed t stage rest) : Followed t start (stage :: rest)

/-- The names of the stages of a chain, without the switch that it reaches. -/
def trunk (start : Stage) (rest : List Stage) : List String :=
  start.name :: (rest.filter (·.kind ≠ .switch)).map (·.name)

theorem trunk_cons {stage : Stage} (hk : stage.kind ≠ .switch) (start : Stage)
    (rest : List Stage) : trunk start (stage :: rest) = start.name :: trunk stage rest := by
  simp [trunk, hk]

theorem trunk_arrived {switch : Stage} (hk : switch.kind = .switch) (start : Stage) :
    trunk start [switch] = [start.name] := by
  simp [trunk, hk]

theorem linksOf_cons (start stage : Stage) (rest : List Stage) :
    linksOf (start :: stage :: rest) = ⟨start.name, stage.name⟩ :: linksOf (stage :: rest) :=
  rfl

/-- Every stage behind the first is led to by one link of the chain. -/
theorem map_target_linksOf (start : Stage) (rest : List Stage) :
    (linksOf (start :: rest)).map (·.target) = rest.map (·.name) := by
  induction rest generalizing start with
  | nil => rfl
  | cons stage rest ih => rw [linksOf_cons, List.map_cons, List.map_cons, ih]

theorem length_linksOf (start : Stage) (rest : List Stage) :
    (linksOf (start :: rest)).length = rest.length := by
  simpa using congrArg List.length (map_target_linksOf start rest)

theorem eq_of_successor? {name : String} {stage : Stage} (h : t.successor? name = some stage) :
    stage ∈ t.stages ∧ t.Feeds name stage.name := by
  obtain ⟨⟨source, target⟩, hl, hs⟩ := Option.bind_eq_some_iff.1 h
  have hm : ⟨source, target⟩ ∈ t.links := List.mem_reverse.1 (List.mem_of_find?_eq_some hl)
  obtain rfl : source = name := by simpa using List.find?_some hl
  obtain rfl : stage.name = target := by simpa using List.find?_some hs
  exact ⟨List.mem_of_find?_eq_some hs, hm⟩

namespace Followed

variable {start : Stage} {rest : List Stage}

/-- With as many steps as there are stages to come the chain is followed to its end. -/
theorem chainAfter_eq (h : t.Followed start rest) {steps : Nat} (hs : rest.length ≤ steps) :
    t.chainAfter steps start.name = rest := by
  induction h generalizing steps with
  | ended h => cases steps <;> simp [chainAfter, h]
  | arrived h hk =>
      obtain ⟨steps, rfl⟩ := Nat.exists_eq_add_one.2 hs
      simp [chainAfter, h, hk]
  | passed h hk _ ih =>
      rw [List.length_cons] at hs
      obtain ⟨steps, rfl⟩ := Nat.exists_eq_add_one.2 (Nat.lt_of_lt_of_le (Nat.succ_pos _) hs)
      simp only [chainAfter, h, hk, if_false]
      rw [ih (Nat.le_of_succ_le_succ hs)]

theorem mem_stages (h : t.Followed start rest) : ∀ stage ∈ rest, stage ∈ t.stages := by
  induction h with
  | ended h => simp
  | arrived h hk => simpa using (eq_of_successor? h).1
  | passed h hk _ ih => exact List.forall_mem_cons.2 ⟨(eq_of_successor? h).1, ih⟩

theorem linksOf_subset (h : t.Followed start rest) : linksOf (start :: rest) ⊆ t.links := by
  induction h with
  | ended h => exact List.nil_subset _
  | arrived h hk => exact List.cons_subset.2 ⟨(eq_of_successor? h).2, List.nil_subset _⟩
  | passed h hk _ ih => exact List.cons_subset.2 ⟨(eq_of_successor? h).2, ih⟩

/-- A switch can only come last. -/
theorem kind_ne_switch (h : t.Followed start rest) :
    ∀ stage ∈ rest.dropLast, stage.kind ≠ .switch := by
  induction h with
  | ended h => simp
  | arrived h hk => simp
  | @passed _ stage rest _ hk _ ih =>
      cases rest with
      | nil => simp
      | cons next rest => exact List.forall_mem_cons.2 ⟨hk, ih⟩

/-- At the end of a chain is a switch, or no link leads on. -/
theorem end_cases (h : t.Followed start rest) :
    ∃ last, (start :: rest).getLast? = some last ∧
      (last.kind = .switch ∨ t.successor? last.name = none) := by
  induction h with
  | ended h => exact ⟨_, rfl, .inr h⟩
  | arrived h hk => exact ⟨_, rfl, .inl hk⟩
  | passed h hk _ ih => exact ih

/-- The links of a chain come from the stages of its trunk. -/
theorem map_source_sublist (h : t.Followed start rest) :
    ((linksOf (start :: rest)).map (·.source)).Sublist (trunk start rest) := by
  induction h with
  | ended h => exact List.nil_sublist _
  | arrived h hk =>
      rw [trunk_arrived hk]
      exact List.Sublist.refl _
  | passed h hk _ ih =>
      rw [linksOf_cons, List.map_cons, trunk_cons hk]
      exact ih.cons_cons _

/-- Every link from a stage of the trunk is on the chain, where no stage has two. -/
theorem mem_linksOf (h : t.Followed start rest)
    (leads : ∀ a b, t.Feeds a b → ∃ stage, t.successor? a = some stage ∧ stage.name = b)
    {a b : String} (ha : a ∈ trunk start rest) (hab : t.Feeds a b) :
    ⟨a, b⟩ ∈ linksOf (start :: rest) := by
  -- along the chain: the link belongs to the first stage, or to one that is passed
  induction h with
  | ended h =>
      obtain rfl := List.mem_singleton.1 ha
      obtain ⟨stage, hs, -⟩ := leads _ b hab
      rw [h] at hs
      cases hs
  | arrived h hk =>
      rw [trunk_arrived hk] at ha
      obtain rfl := List.mem_singleton.1 ha
      obtain ⟨stage, hs, rfl⟩ := leads _ b hab
      obtain rfl := Option.some.inj (h.symm.trans hs)
      exact List.mem_singleton_self _
  | passed h hk _ ih =>
      rw [trunk_cons hk] at ha
      rw [linksOf_cons]
      rcases List.mem_cons.1 ha with rfl | ha
      · obtain ⟨stage, hs, rfl⟩ := leads _ b hab
        obtain rfl := Option.some.inj (h.symm.trans hs)
        exact List.mem_cons_self
      · exact List.mem_cons_of_mem _ (ih ha)

end Followed

/-! ## Sound graphs -/

namespace Sound

theorem stage?_eq (h : t.Sound) {stage : Stage} (hm : stage ∈ t.stages) :
    t.stage? stage.name = some stage := by
  obtain ⟨found, hf, hname⟩ := Option.map_eq_some_iff.1 (map_stage? (mem_names_of_mem hm))
  rw [hf, h.stage_eq (List.mem_of_find?_eq_some hf) hm hname]

/-- What a stage feeds is its successor. -/
theorem successor?_of_feeds (h : t.Sound) (a b : String) (hab : t.Feeds a b) :
    ∃ stage, t.successor? a = some stage ∧ stage.name = b := by
  obtain ⟨stage, hm, rfl⟩ := mem_names.1 (h.target_mem hab)
  refine ⟨stage, ?_, rfl⟩
  have hsome : (t.links.reverse.find? (·.source == a)).isSome :=
    List.find?_isSome.2 ⟨_, List.mem_reverse.2 hab, by simp⟩
  obtain ⟨⟨source, target⟩, hl⟩ := Option.isSome_iff_exists.1 hsome
  obtain rfl : source = a := by simpa using List.find?_some hl
  -- the last link from the stage is its only one
  obtain rfl := h.next_eq _ _ _ hab (List.mem_reverse.1 (List.mem_of_find?_eq_some hl))
  simp only [successor?, hl]
  exact h.stage?_eq hm

/-- From every stage the links can be followed to an end. -/
theorem exists_followed (h : t.Sound) (start : Stage) : ∃ rest, t.Followed start rest := by
  -- there is no cycle, so that what a stage feeds is nearer to an end
  obtain ⟨name, hn⟩ : ∃ name, start.name = name := ⟨_, rfl⟩
  induction name using (h.wellFounded_fedBy h.acyclic).induction generalizing start with
  | _ name ih =>
      cases hs : t.successor? start.name with
      | none => exact ⟨[], .ended hs⟩
      | some stage =>
          by_cases hk : stage.kind = .switch
          · exact ⟨[stage], .arrived hs hk⟩
          · obtain ⟨rest, hr⟩ := ih stage.name (hn ▸ (eq_of_successor? hs).2) stage rfl
            exact ⟨stage :: rest, .passed hs hk hr⟩

/-- The trunk of a chain is a trail along links that do not lead into a switch. -/
theorem trail_trunk (h : t.Sound) {start : Stage} {rest : List Stage}
    (hf : t.Followed start rest) : Trail t.Continues start.name (trunk start rest) := by
  induction hf with
  | @ended start hs =>
      refine ⟨rfl, List.isChain_singleton _, ?_⟩
      rintro _ ⟨⟩ next hn
      obtain ⟨stage, hstage, -⟩ := h.successor?_of_feeds start.name next hn.1
      rw [hs] at hstage
      cases hstage
  | @arrived start switch hs hk =>
      rw [trunk_arrived hk]
      refine ⟨rfl, List.isChain_singleton _, ?_⟩
      rintro _ ⟨⟩ next hn
      obtain ⟨hm, hf⟩ := eq_of_successor? hs
      exact hn.2 switch (mem_switches.2 ⟨hm, hk⟩) (h.next_eq _ _ _ hn.1 hf)
  | @passed start stage rest hs hk _ ih =>
      obtain ⟨hm, hf⟩ := eq_of_successor? hs
      have hc : t.Continues start.name stage.name := by
        refine ⟨hf, fun switch hswitch heq => hk ?_⟩
        obtain ⟨hm', hk'⟩ := mem_switches.1 hswitch
        rw [h.stage_eq hm hm' heq, hk']
      rw [trunk_cons hk]
      refine ⟨rfl, ih.chain.cons ?_, ?_⟩
      · rw [ih.head]
        rintro _ ⟨⟩
        exact hc
      · have ended := ih.ended
        rw [trunk] at ended ⊢
        rwa [List.getLast?_cons_cons]

variable {rest : Stage → List Stage}

/-- The trunks of the chains hold every stage once. -/
theorem perm_trunk (h : t.Sound) (hr : ∀ start, t.Followed start (rest start)) :
    ((t.sources ++ t.switches).flatMap fun start => trunk start (rest start)).Perm t.names := by
  obtain ⟨way, hw⟩ := h.exists_ways
  have heq : way = fun start => trunk start (rest start) := by
    funext start
    exact (h.trail_trunk (hr start)).eq h.lines.next_eq (hw.trail start)
  exact heq ▸ hw.all

/-- The chains hold every link once. -/
theorem perm_linksOf (h : t.Sound) (hr : ∀ start, t.Followed start (rest start)) :
    ((t.sources ++ t.switches).flatMap fun start => linksOf (start :: rest start)).Perm t.links := by
  have trunks := h.perm_trunk hr
  -- no two links come from the same stage, neither on the chains nor in the graph
  have once : ((t.sources ++ t.switches).flatMap
      fun start => linksOf (start :: rest start)).Nodup := by
    refine List.Nodup.of_map (·.source) ?_
    rw [List.map_flatMap]
    refine (trunks.nodup_iff.2 h.distinct).sublist ?_
    exact List.Sublist.flatMap_right _ fun start _ => (hr start).map_source_sublist
  obtain ⟨sink, hs⟩ := h.exists_sink
  have alone : t.links.Nodup :=
    .of_map (·.source) (List.nodup_cons.1 ((h.perm_sources_of_links hs).nodup_iff.2 h.distinct)).2
  refine (List.perm_ext_iff_of_nodup once alone).2 fun link => ?_
  rw [List.mem_flatMap]
  constructor
  · rintro ⟨start, -, hm⟩
    exact (hr start).linksOf_subset hm
  · intro hm
    obtain ⟨a, b⟩ := link
    obtain ⟨start, hstart, ha⟩ := List.mem_flatMap.1 (trunks.mem_iff.2 (h.source_mem hm))
    exact ⟨start, hstart, (hr start).mem_linksOf h.successor?_of_feeds ha hm⟩

/-! ### The chains -/

theorem chainStarts_eq (h : t.Sound) : t.chainStarts = t.sources ++ t.switches := by
  have few : t.switches.length ≤ 1 := by
    rw [length_switches, h.switches]
    cases t.mode <;> simp
  have heq : t.switch? = t.switches.head? := List.head?_filter.symm
  have hsources : t.stages.filter (·.kind == .source) = t.sources := rfl
  rw [chainStarts, hsources, heq]
  match t.switches, few with
  | [], _ => rfl
  | [_], _ => rfl

/-- No chain has more links than the graph. -/
theorem length_rest_le (h : t.Sound) (hr : ∀ start, t.Followed start (rest start)) {start : Stage}
    (hm : start ∈ t.sources ++ t.switches) : (rest start).length ≤ t.links.length := by
  have hpart : (linksOf (start :: rest start)).Sublist
      ((t.sources ++ t.switches).flatMap fun start => linksOf (start :: rest start)) :=
    List.sublist_flatten_of_mem (List.mem_map.2 ⟨start, hm, rfl⟩)
  calc (rest start).length = (linksOf (start :: rest start)).length := (length_linksOf _ _).symm
    _ ≤ ((t.sources ++ t.switches).flatMap fun start => linksOf (start :: rest start)).length :=
        hpart.length_le
    _ = t.links.length := (h.perm_linksOf hr).length_eq

/-- The bound on the steps of a chain is no bound. -/
theorem chains_eq (h : t.Sound) (hr : ∀ start, t.Followed start (rest start)) :
    t.chains = (t.sources ++ t.switches).map fun start => start :: rest start := by
  rw [chains, h.chainStarts_eq]
  refine List.map_congr_left fun start hm => ?_
  rw [(hr start).chainAfter_eq (h.length_rest_le hr hm)]

/-- Behind their starts the chains hold every stage as often as it is fed. -/
theorem count_flatMap_rest (h : t.Sound) (hr : ∀ start, t.Followed start (rest start))
    {stage : Stage} (hm : stage ∈ t.stages) :
    ((t.sources ++ t.switches).flatMap rest).count stage = t.fanIn stage.name := by
  have hnames : ((t.sources ++ t.switches).flatMap rest).map (·.name) =
      ((t.sources ++ t.switches).flatMap fun start => linksOf (start :: rest start)).map
        (·.target) := by
    simp only [List.map_flatMap, map_target_linksOf]
  have hcount : ((t.sources ++ t.switches).flatMap rest).count stage =
      (((t.sources ++ t.switches).flatMap rest).map (·.name)).count stage.name := by
    rw [List.count, List.count, List.countP_map]
    refine List.countP_congr fun other ho => ?_
    obtain ⟨start, -, ho⟩ := List.mem_flatMap.1 ho
    simpa using ⟨congrArg Stage.name, h.stage_eq ((hr start).mem_stages other ho) hm⟩
  rw [hcount, hnames, ((h.perm_linksOf hr).map _).count_eq, List.count, List.countP_map]
  rfl

theorem nodup_starts (h : t.Sound) : (t.sources ++ t.switches).Nodup :=
  h.nodup_begins.of_map

theorem mem_stages_of_mem_starts {start : Stage} (hm : start ∈ t.sources ++ t.switches) :
    start ∈ t.stages ∧ start.kind ≠ .sink := by
  rcases List.mem_append.1 hm with hs | hw
  · obtain ⟨hm, hk⟩ := mem_sources.1 hs
    exact ⟨hm, by simp [hk]⟩
  · obtain ⟨hm, hk⟩ := mem_switches.1 hw
    exact ⟨hm, by simp [hk]⟩

/-- What is not the sink is followed by something. -/
theorem rest_ne_nil (h : t.Sound) {start : Stage} {rest : List Stage}
    (hf : t.Followed start rest) (hm : start ∈ t.stages) (hk : start.kind ≠ .sink) :
    rest ≠ [] := by
  cases hf with
  | ended hs =>
      have hone := h.outputs start hm
      rw [if_neg hk, ← length_outputs] at hone
      obtain ⟨next, hout⟩ := List.length_eq_one_iff.1 hone
      obtain ⟨stage, hstage, -⟩ := h.successor?_of_feeds start.name next
        (mem_outputs.1 (hout ▸ List.mem_singleton_self next))
      rw [hs] at hstage
      cases hstage
  | arrived => exact List.cons_ne_nil _ _
  | passed => exact List.cons_ne_nil _ _

/-- A chain ends at a switch or the sink. -/
theorem end_of_chain (h : t.Sound) {sink : Stage} (hs : t.soleSink = .ok sink) {start : Stage}
    {rest : List Stage} (hf : t.Followed start rest) (hm : start ∈ t.stages) :
    ∃ last, (start :: rest).getLast? = some last ∧ (last ∈ t.switches ∨ last = sink) := by
  obtain ⟨last, hl, hend⟩ := hf.end_cases
  have known : last ∈ t.stages :=
    List.forall_mem_cons.2 ⟨hm, hf.mem_stages⟩ last (List.mem_of_getLast? hl)
  refine ⟨last, hl, hend.imp (fun hk => mem_switches.2 ⟨known, hk⟩) fun hnone => ?_⟩
  refine h.stage_eq known (sink_mem hs).1 (h.eq_sink hs (mem_names_of_mem known) ?_)
  intro next hn
  obtain ⟨stage, hstage, -⟩ := h.successor?_of_feeds last.name next hn
  rw [hnone] at hstage
  cases hstage

/-- A chain reaches a switch exactly if that is its end. -/
theorem count_rest (h : t.Sound) {start switch : Stage} {rest : List Stage}
    (hf : t.Followed start rest) (hm : start ∈ t.sources ++ t.switches)
    (hw : switch ∈ t.switches) :
    rest.count switch = if (start :: rest).getLast? = some switch then 1 else 0 := by
  obtain ⟨known, hk⟩ := mem_stages_of_mem_starts hm
  have hne := h.rest_ne_nil hf known hk
  have before : switch ∉ rest.dropLast :=
    fun hm => hf.kind_ne_switch switch hm (mem_switches.1 hw).2
  have hlast : (start :: rest).getLast? = some (rest.getLast hne) := by
    rw [List.getLast?_cons, List.getLast?_eq_some_getLast hne, Option.getD_some]
  conv_lhs => rw [← List.dropLast_concat_getLast hne]
  rw [List.count_append, List.count_eq_zero_of_not_mem before, List.count_singleton, hlast]
  simp

end Sound

/-- Where no list holds a member more than once, those that hold it are counted. -/
theorem count_flatMap_eq_countP {α β : Type} [BEq β] {f : α → List β} {b : β} {p : α → Bool}
    {xs : List α} (h : ∀ x ∈ xs, (f x).count b = if p x then 1 else 0) :
    (xs.flatMap f).count b = xs.countP p := by
  induction xs with
  | nil => rfl
  | cons x xs ih =>
      obtain ⟨hx, hxs⟩ := List.forall_mem_cons.1 h
      rw [List.flatMap_cons, List.count_append, hx, ih hxs, List.countP_cons, Nat.add_comm]

theorem count_flatten_cons {α : Type} [BEq α] (b : α) (f : α → List α) (xs : List α) :
    (xs.map fun x => x :: f x).flatten.count b = xs.count b + (xs.flatMap f).count b := by
  induction xs with
  | nil => rfl
  | cons x xs ih =>
      rw [List.map_cons, List.flatten_cons, List.count_append, ih, List.flatMap_cons,
        List.count_append, List.count_cons, List.count_cons]
      omega

/-- How chains divide a graph. -/
structure Divided (t : Topology) (sink : Stage) (chains : List (List Stage)) : Prop where
  /-- A chain begins at each of the sources and at the switch. -/
  starts : chains.map List.head? = (t.sources ++ t.switches).map some
  /-- It leads somewhere. -/
  long : ∀ chain ∈ chains, 2 ≤ chain.length
  /-- It ends at the switch or the sink. -/
  ends : ∀ chain ∈ chains, ∃ last, chain.getLast? = some last ∧ (last ∈ t.switches ∨ last = sink)
  known : ∀ chain ∈ chains, ∀ stage ∈ chain, stage ∈ t.stages
  /-- Every link joins two neighbours on a chain, once. -/
  links : (chains.flatMap linksOf).Perm t.links
  /-- Every stage but the switch is on one chain, once. -/
  once : ∀ stage ∈ t.stages, stage ∉ t.switches → chains.flatten.count stage = 1
  /-- The switch is the start of one chain. -/
  own : ∀ switch ∈ t.switches, chains.countP (·.head? = some switch) = 1
  /-- It is the end of as many as it has inputs. -/
  entered : ∀ switch ∈ t.switches,
    chains.countP (·.getLast? = some switch) = t.fanIn switch.name
  /-- It is nowhere between start and end. -/
  between : ∀ chain ∈ chains, ∀ stage ∈ chain.tail.dropLast, stage ∉ t.switches

theorem Sound.divided {rest : Stage → List Stage} (h : t.Sound) {sink : Stage}
    (hs : t.soleSink = .ok sink) (hr : ∀ start, t.Followed start (rest start)) :
    t.Divided sink ((t.sources ++ t.switches).map fun start => start :: rest start) where
  starts := by
    rw [List.map_map]
    rfl
  long := by
    refine List.forall_mem_map.2 fun start hm => ?_
    obtain ⟨known, hk⟩ := mem_stages_of_mem_starts hm
    have := List.length_pos_of_ne_nil (h.rest_ne_nil (hr start) known hk)
    rw [List.length_cons]
    omega
  ends := List.forall_mem_map.2 fun start hm =>
    h.end_of_chain hs (hr start) (mem_stages_of_mem_starts hm).1
  known := List.forall_mem_map.2 fun start hm =>
    List.forall_mem_cons.2 ⟨(mem_stages_of_mem_starts hm).1, (hr start).mem_stages⟩
  links := by
    rw [List.flatMap_map]
    exact h.perm_linksOf hr
  once := by
    intro stage hm hw
    rw [count_flatten_cons, h.count_flatMap_rest hr hm]
    by_cases hsource : stage ∈ t.sources
    · -- a source begins a chain and is led to by none
      have hin := h.inputs stage hm
      rw [(mem_sources.1 hsource).2] at hin
      rw [hin, List.count_eq_one_of_mem h.nodup_starts (List.mem_append_left _ hsource)]
    · have hnot : stage ∉ t.sources ++ t.switches := by
        rw [List.mem_append, not_or]
        exact ⟨hsource, hw⟩
      rw [List.count_eq_zero_of_not_mem hnot, h.fanIn_eq_one hm hsource hw]
  own := by
    intro switch hw
    rw [List.countP_map]
    refine Eq.trans ?_ (List.count_eq_one_of_mem h.nodup_starts (List.mem_append_right _ hw))
    exact List.countP_congr fun start _ => by simp
  entered := by
    intro switch hw
    rw [← h.count_flatMap_rest hr (mem_switches.1 hw).1, List.countP_map]
    refine (count_flatMap_eq_countP fun start hm => ?_).symm
    rw [h.count_rest (hr start) hm hw]
    simp
  between := List.forall_mem_map.2 fun start _ stage hm hw =>
    (hr start).kind_ne_switch stage hm (mem_switches.1 hw).2

/-- In a graph that passes the check, the links can be followed to an end from every stage. The
chains are what is found so from the sources and the switch, and are written one behind the other;
they divide the graph. -/
theorem chains_of_check (h : t.check = .ok ()) :
    ∃ (sink : Stage) (rest : Stage → List Stage),
      t.soleSink = .ok sink ∧ (∀ start, t.Followed start (rest start)) ∧
      t.chains = ((t.sources ++ t.switches).map fun start => start :: rest start) ∧
      t.describe = "; ".intercalate ((t.sources ++ t.switches).map fun start =>
        " ! ".intercalate ((start :: rest start).map Stage.label)) ∧
      t.Divided sink t.chains := by
  have h := check_eq_ok.1 h
  obtain ⟨sink, hs⟩ := h.exists_sink
  choose rest hr using h.exists_followed
  have hchains := h.chains_eq hr
  refine ⟨sink, rest, hs, hr, hchains, ?_, hchains ▸ h.divided hs hr⟩
  rw [describe, hchains, List.map_map]
  rfl

/-- Two sources lead to the switch, and the switch to the outlet. -/
theorem chains_of_trial :
    twoSources.check = .ok () ∧ (∃ sink, twoSources.Divided sink twoSources.chains) ∧
      twoSources.chains.map (·.map (·.name)) =
        [["camera", "crossing"], ["picture", "crossing"], ["crossing", "outlet"]] := by
  have ht : twoSources.check = .ok () := by decide +kernel
  obtain ⟨sink, -, -, -, -, -, hd⟩ := chains_of_check ht
  exact ⟨ht, ⟨sink, hd⟩, by decide +kernel⟩

end StandbyStream.Topology
