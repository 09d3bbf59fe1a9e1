import StandbyStream.Proofs.Topology.Soundness

/-!
# How the stages of a sound topology lie

What the check asks of every stage alone, with the absence of cycles, fixes the shape of the whole
graph (`layout_of_check`). Without live input it is one chain from the only source to the sink
(`Single`). A live graph is a branch from every source to the switch, each with an entrance of its
own, and one chain from the switch to the sink (`Forked`).

The links that do not lead into a switch leave no choice in either direction (`Sound.lines`). So
they divide the stages into trails, one from every source and one from the switch; where such a
trail ends is either the sink or an entrance of the switch.
-/

namespace StandbyStream.Topology

open Relation

variable {t : Topology}

/-- The sources, in order. -/
def sources (t : Topology) : List Stage :=
  t.stages.filter (·.kind = .source)

/-- The switches, in order. -/
def switches (t : Topology) : List Stage :=
  t.stages.filter (·.kind = .switch)

/-- A link that does not lead into a switch. -/
def Continues (t : Topology) (a b : String) : Prop :=
  t.Feeds a b ∧ ∀ switch ∈ t.switches, b ≠ switch.name

/-- All stages on one chain from the only source to the sink. -/
structure Single (t : Topology) (source sink : Stage) (chain : List String) : Prop where
  only : t.sources = [source]
  trail : Trail t.Feeds source.name chain
  last : chain.getLast? = some sink.name
  all : chain.Perm t.names

/-- A branch from every source to the switch and one chain from the switch to the sink; the branches
and this chain hold every stage once. -/
structure Forked (t : Topology) (switch sink : Stage) (branch : Stage → List String)
    (entrance : Stage → String) (chain : List String) : Prop where
  only : t.switches = [switch]
  trail : ∀ source ∈ t.sources, Trail t.Feeds source.name (branch source ++ switch.name :: chain)
  onward : Trail t.Feeds switch.name (switch.name :: chain)
  last : (switch.name :: chain).getLast? = some sink.name
  all : (t.sources.flatMap branch ++ switch.name :: chain).Perm t.names
  entered : ∀ source ∈ t.sources, (branch source).getLast? = some (entrance source)
  /-- The branches end with the inputs of the switch, each with another one. -/
  entrances : (t.sources.map entrance).Perm (t.switchInputs.map Prod.snd)
  apart : (t.sources.map entrance).Nodup
  /-- The input that is put on air says which source is. -/
  decides : ∀ input ∈ t.switchInputs, ∃! source, source ∈ t.sources ∧ input.2 ∈ branch source
  count : t.sources.length = t.switchInputs.length
  several : 2 ≤ t.sources.length
  live : ∃ source ∈ t.sources, source.branch = .live

theorem mem_sources {stage : Stage} :
    stage ∈ t.sources ↔ stage ∈ t.stages ∧ stage.kind = .source := by
  simp [sources]

theorem mem_switches {stage : Stage} :
    stage ∈ t.switches ↔ stage ∈ t.stages ∧ stage.kind = .switch := by
  simp [switches]

theorem length_switches (t : Topology) :
    t.switches.length = t.stages.countP (·.kind = .switch) :=
  List.countP_eq_length_filter.symm

namespace Sound

/-! ## Stages and their links -/

theorem not_feeds_source (h : t.Sound) {source : Stage} (hs : source ∈ t.sources) (a : String) :
    ¬ t.Feeds a source.name := by
  obtain ⟨hm, hk⟩ := mem_sources.1 hs
  have hin := h.inputs source hm
  rw [hk] at hin
  intro ha
  simpa using List.countP_eq_zero.1 hin _ ha

/-- A stage that is neither a source nor a switch is fed by one. -/
theorem fanIn_eq_one (h : t.Sound) {stage : Stage} (hm : stage ∈ t.stages)
    (hs : stage ∉ t.sources) (hw : stage ∉ t.switches) : t.fanIn stage.name = 1 := by
  rw [mem_sources, not_and] at hs
  rw [mem_switches, not_and] at hw
  have hin := h.inputs stage hm
  split at hin
  · next hk => exact absurd hk (hs hm)
  · next hk => exact absurd hk (hw hm)
  · exact hin

/-- Links that do not lead into a switch leave no choice. -/
theorem lines (h : t.Sound) : Lines t.Continues t.names where
  within a b hab := ⟨h.source_mem hab.1, h.target_mem hab.1⟩
  next_eq a b c hab hac := h.next_eq a b c hab.1 hac.1
  prev_eq a b c hac hbc := by
    obtain ⟨stage, hm, rfl⟩ := mem_names.1 (h.target_mem hac.1)
    have hone : t.fanIn stage.name ≤ 1 := by
      refine (h.fanIn_eq_one hm (fun hs => ?_) fun hw => ?_).le
      · exact h.not_feeds_source hs a hac.1
      · exact hac.2 stage hw rfl
    exact (Link.mk.inj (eq_of_countP_le_one hone hac.1 hbc.1 (by simp) (by simp))).1
  irreflexive a ha := h.acyclic a (TransGen.mono (fun _ _ hab => hab.1) _ _ ha)

/-- What is led to by switches alone, or by nothing, is a source or a switch. -/
theorem mem_begins (h : t.Sound) (name : String) :
    name ∈ (t.sources ++ t.switches).map (·.name) ↔
      name ∈ t.names ∧ ∀ a, ¬ t.Continues a name := by
  rw [List.mem_map]
  constructor
  · rintro ⟨stage, hm, rfl⟩
    rcases List.mem_append.1 hm with hs | hw
    · exact ⟨mem_names_of_mem (mem_sources.1 hs).1, fun a ha => h.not_feeds_source hs a ha.1⟩
    · exact ⟨mem_names_of_mem (mem_switches.1 hw).1, fun a ha => ha.2 stage hw rfl⟩
  · rintro ⟨hn, hnone⟩
    obtain ⟨stage, hm, rfl⟩ := mem_names.1 hn
    refine ⟨stage, ?_, rfl⟩
    by_contra hnot
    rw [List.mem_append, not_or] at hnot
    have hone := h.fanIn_eq_one hm hnot.1 hnot.2
    obtain ⟨⟨a, b⟩, hlink, hb⟩ := List.countP_pos_iff.1 (hone.ge : 0 < t.fanIn stage.name)
    obtain rfl : b = stage.name := by simpa using hb
    refine hnone a ⟨hlink, fun switch hw heq => ?_⟩
    exact hnot.2 (h.stage_eq hm (mem_switches.1 hw).1 heq ▸ hw)

theorem nodup_begins (h : t.Sound) : ((t.sources ++ t.switches).map (·.name)).Nodup := by
  have once : t.stages.Nodup := h.distinct.of_map
  have hsub : ∀ stage ∈ t.sources ++ t.switches, stage ∈ t.stages := by
    intro stage hm
    rcases List.mem_append.1 hm with hs | hw
    · exact (mem_sources.1 hs).1
    · exact (mem_switches.1 hw).1
  refine List.Nodup.map_on (fun a ha b hb => h.stage_eq (hsub a ha) (hsub b hb)) ?_
  refine List.nodup_append.2 ⟨once.filter _, once.filter _, ?_⟩
  rintro source hs switch hw rfl
  have hk := (mem_sources.1 hs).2.symm.trans (mem_switches.1 hw).2
  cases hk

/-! ## One trail from every source and switch -/

end Sound

/-- The trails along links that do not lead into a switch: those of the sources and the switches
hold every stage, and do not meet. -/
structure Ways (t : Topology) (way : Stage → List String) : Prop where
  trail : ∀ stage, Trail t.Continues stage.name (way stage)
  all : ((t.sources ++ t.switches).flatMap way).Perm t.names
  meet : ∀ a ∈ t.sources ++ t.switches, ∀ b ∈ t.sources ++ t.switches, ∀ name ∈ way a,
    name ∈ way b → a = b

theorem Sound.exists_ways (h : t.Sound) : ∃ way, t.Ways way := by
  choose way hway using fun name => Trail.exists_of_wellFounded h.lines.flip.wellFounded name
  refine ⟨fun stage => way stage.name, fun stage => hway stage.name, ?_, ?_⟩
  · have hperm := h.lines.perm_flatMap h.distinct h.nodup_begins h.mem_begins
      fun first _ => hway first
    rwa [List.flatMap_map] at hperm
  · intro a ha b hb name hna hnb
    have begun stage (hm : stage ∈ t.sources ++ t.switches) :=
      ((h.mem_begins stage.name).1 (List.mem_map_of_mem hm)).2
    have heq := h.lines.first_eq (hway a.name) (begun a ha) hna (hway b.name) (begun b hb) hnb
    exact List.inj_on_of_nodup_map h.nodup_begins ha hb heq

/-- A source is told by what lies on its trail. -/
theorem Ways.source_eq {way : Stage → List String} (h : t.Ways way) {a b : Stage}
    (ha : a ∈ t.sources) (hb : b ∈ t.sources) {name : String} (hna : name ∈ way a)
    (hnb : name ∈ way b) : a = b :=
  h.meet a (List.mem_append_left _ ha) b (List.mem_append_left _ hb) name hna hnb

/-! ## Shapes -/

namespace Sound

variable {sink : Stage}

theorem sink_mem (hs : t.soleSink = .ok sink) : sink ∈ t.stages ∧ sink.kind = .sink := by
  have hm : sink ∈ t.stages.filter (·.kind == .sink) := by
    rw [soleSink_eq_ok.1 hs]
    exact List.mem_singleton_self sink
  simpa using hm

/-- Links come from all stages but the sink, one from each. -/
theorem perm_sources_of_links (h : t.Sound) (hs : t.soleSink = .ok sink) :
    (sink.name :: t.links.map (·.source)).Perm t.names := by
  -- no stage has two outputs, the sink has none, and whatever is not the sink has one
  have once : (t.links.map (·.source)).Nodup := by
    refine List.nodup_iff_count_le_one.2 fun name => ?_
    rw [List.count, List.countP_map]
    exact h.fanOut_le_one name
  have feeds name : name ∈ t.links.map (·.source) ↔ ∃ next, t.Feeds name next := by
    rw [List.mem_map]
    constructor
    · rintro ⟨⟨a, b⟩, hm, rfl⟩
      exact ⟨b, hm⟩
    · rintro ⟨next, hm⟩
      exact ⟨_, hm, rfl⟩
  obtain ⟨hm, hk⟩ := sink_mem hs
  have apart : sink.name ∉ t.links.map (·.source) := by
    rw [feeds]
    rintro ⟨next, hn⟩
    have hout := h.outputs sink hm
    rw [if_pos hk] at hout
    simpa using List.countP_eq_zero.1 hout _ hn
  refine (List.perm_ext_iff_of_nodup (List.nodup_cons.2 ⟨apart, once⟩) h.distinct).2 fun name => ?_
  rw [List.mem_cons, feeds]
  constructor
  · rintro (rfl | ⟨next, hn⟩)
    · exact mem_names_of_mem hm
    · exact h.source_mem hn
  · intro hn
    by_contra hnot
    rw [not_or, not_exists] at hnot
    exact hnot.1 (h.eq_sink hs hn hnot.2)

theorem length_links (h : t.Sound) (hs : t.soleSink = .ok sink) :
    t.links.length + 1 = t.stages.length := by
  simpa using (h.perm_sources_of_links hs).length_eq

/-! ### Without live input -/

theorem switches_eq_nil (h : t.Sound) (hmode : t.mode = .fallbackOnly) : t.switches = [] := by
  have hcount := h.switches
  rw [hmode, ← length_switches] at hcount
  exact List.length_eq_zero_iff.1 hcount

theorem exists_single (h : t.Sound) (hs : t.soleSink = .ok sink) (hmode : t.mode = .fallbackOnly) :
    ∃ source chain, t.Single source sink chain := by
  obtain ⟨way, hw⟩ := h.exists_ways
  have hnone := h.switches_eq_nil hmode
  -- where there is no switch no link is left out of the trails
  have hfeeds : t.Continues = t.Feeds := by
    funext a b
    simp [Continues, hnone]
  have trail := hw.trail
  have all := hw.all
  have meet := hw.meet
  rw [hnone, List.append_nil] at all meet
  rw [hfeeds] at trail
  have last source (hm : source ∈ t.sources) : (way source).getLast? = some sink.name :=
    (h.trail_to_sink hs (mem_names_of_mem (mem_sources.1 hm).1) (trail source)).1
  -- all trails end at the sink, so that there is only one
  have same a (ha : a ∈ t.sources) b (hb : b ∈ t.sources) : a = b :=
    meet a ha b hb sink.name (List.mem_of_getLast? (last a ha)) (List.mem_of_getLast? (last b hb))
  obtain ⟨source, hm, -⟩ := List.mem_flatMap.1
    (all.mem_iff.2 (mem_names_of_mem (sink_mem hs).1))
  have only : t.sources = [source] := by
    have once : t.sources.Nodup := h.distinct.of_map.filter _
    exact List.perm_singleton.1 ((List.perm_ext_iff_of_nodup once (List.nodup_singleton source)).2
      fun a => by simpa using ⟨fun ha => same a ha source hm, fun heq => heq ▸ hm⟩)
  refine ⟨source, way source, only, trail source, last source hm, ?_⟩
  simpa [only] using all

/-! ### With live input -/

theorem exists_switch (h : t.Sound) (hmode : t.mode = .live) : ∃ switch, t.switches = [switch] := by
  have hcount := h.switches
  rw [hmode, ← length_switches] at hcount
  exact List.length_eq_one_iff.1 hcount

end Sound

theorem switch?_of_switches {switch : Stage} (honly : t.switches = [switch]) :
    t.switch? = some switch := by
  have heq : t.switch? = t.switches.head? := List.head?_filter.symm
  rw [heq, honly, List.head?_cons]

theorem map_stage? {name : String} (hn : name ∈ t.names) :
    (t.stage? name).map (·.name) = some name := by
  obtain ⟨stage, hm, rfl⟩ := mem_names.1 hn
  have hsome : (t.stage? stage.name).isSome := List.find?_isSome.2 ⟨stage, hm, by simp⟩
  obtain ⟨found, hf⟩ := Option.isSome_iff_exists.1 hsome
  rw [hf, Option.map_some]
  simpa using List.find?_some hf

/-- The names of the switch inputs are those of the stages that feed the switch. -/
theorem Wired.switchInputs_eq (h : t.Wired) {switch : Stage} (honly : t.switches = [switch]) :
    t.switchInputs.map Prod.snd =
      (t.links.filter (·.target = switch.name)).map (·.source) := by
  rw [switchInputs, switch?_of_switches honly, List.map_filterMap, ← List.filterMap_eq_map]
  refine List.filterMap_congr fun link hl => ?_
  rw [Option.map_map]
  exact map_stage? (h.known link (List.mem_filter.1 hl).1).1

namespace Sound

variable {way : Stage → List String} {switch : Stage}

theorem mem_switchInputs (h : t.Sound) (honly : t.switches = [switch]) {name : String} :
    name ∈ t.switchInputs.map Prod.snd ↔ t.Feeds name switch.name := by
  rw [h.switchInputs_eq honly, List.mem_map]
  constructor
  · rintro ⟨⟨a, b⟩, hm, rfl⟩
    obtain ⟨hlink, hb⟩ := List.mem_filter.1 hm
    exact of_decide_eq_true hb ▸ hlink
  · exact fun hf => ⟨_, List.mem_filter.2 ⟨hf, by simp⟩, rfl⟩

theorem nodup_switchInputs (h : t.Sound) (hs : t.soleSink = .ok sink)
    (honly : t.switches = [switch]) : (t.switchInputs.map Prod.snd).Nodup := by
  rw [h.switchInputs_eq honly]
  have once := (h.perm_sources_of_links hs).nodup_iff.2 h.distinct
  exact (List.nodup_cons.1 once).2.sublist (List.filter_sublist.map _)

theorem two_le_switchInputs (h : t.Sound) (honly : t.switches = [switch]) :
    2 ≤ t.switchInputs.length := by
  obtain ⟨hm, hk⟩ := mem_switches.1 (honly ▸ List.mem_singleton_self switch)
  have hin := h.inputs switch hm
  rw [hk] at hin
  have hlength := congrArg List.length (h.switchInputs_eq honly)
  rw [List.length_map, List.length_map, ← List.countP_eq_length_filter] at hlength
  exact hlength ▸ hin

/-- A link that is not one of the trails leads into the switch. -/
theorem eq_switch (honly : t.switches = [switch]) {a b : String} (hab : t.Feeds a b)
    (hend : ¬ t.Continues a b) : b = switch.name := by
  simpa [Continues, honly, hab] using hend

/-- What comes after the switch does not lead into it again. -/
theorem trail_of_switch (h : t.Sound) (hw : t.Ways way) (honly : t.switches = [switch]) :
    Trail t.Feeds switch.name (way switch) := by
  obtain ⟨head, chain, ended⟩ := hw.trail switch
  have chain : List.IsChain t.Feeds (way switch) := chain.imp fun _ _ hab => hab.1
  refine ⟨head, chain, fun last hl next hn => ?_⟩
  -- only the switch could come next, which would close a cycle
  obtain rfl := eq_switch honly hn (ended last hl next)
  have around : List.IsChain t.Feeds (way switch ++ [switch.name]) := by
    refine chain.append (List.isChain_singleton _) ?_
    rintro a ha _ ⟨⟩
    exact Option.mem_unique ha hl ▸ hn
  have once := nodup_of_isChain h.acyclic around
  exact (List.nodup_append.1 once).2.2 _ (List.mem_of_head? head) _ (List.mem_singleton_self _) rfl

/-- The trail of a source ends with a stage that feeds the switch. -/
theorem feeds_endOf (h : t.Sound) (hw : t.Ways way) (hs : t.soleSink = .ok sink)
    (honly : t.switches = [switch]) {source : Stage} (hsource : source ∈ t.sources) :
    t.Feeds (endOf (way source)) switch.name := by
  obtain ⟨hm, hk⟩ := mem_sources.1 hsource
  have hswitch : switch ∈ t.switches := honly ▸ List.mem_singleton_self switch
  have trail := hw.trail source
  have hl := trail.getLast?_eq
  by_cases hend : ∃ next, t.Feeds (endOf (way source)) next
  · obtain ⟨next, hn⟩ := hend
    exact eq_switch honly hn (trail.ended _ hl next) ▸ hn
  · -- otherwise it ends at the sink, as the trail of the switch does
    have within a b (hab : t.Continues a b) := (h.lines.within a b hab).2
    have hlast := mem_of_isChain within trail.chain trail.head (mem_names_of_mem hm) _
      (List.mem_of_getLast? hl)
    rw [h.eq_sink hs hlast (not_exists.1 hend)] at hl
    have hsink := (h.trail_to_sink hs (mem_names_of_mem (mem_switches.1 hswitch).1)
      (h.trail_of_switch hw honly)).1
    have heq := hw.meet source (List.mem_append_left _ hsource) switch
      (List.mem_append_right _ hswitch) _ (List.mem_of_getLast? hl) (List.mem_of_getLast? hsink)
    have hk := hk.symm.trans (heq ▸ (mem_switches.1 hswitch).2)
    cases hk

/-- Whatever feeds the switch is the end of the trail of a source. -/
theorem exists_source_of_feeds (h : t.Sound) (hw : t.Ways way) (honly : t.switches = [switch])
    {name : String} (hn : t.Feeds name switch.name) :
    ∃ source ∈ t.sources, endOf (way source) = name := by
  obtain ⟨stage, hm, hon⟩ := List.mem_flatMap.1 (hw.all.mem_iff.2 (h.source_mem hn))
  -- its only link leads into the switch, so that its trail does not go on
  have hl : (way stage).getLast? = some name := by
    refine (hw.trail stage).getLast?_of_mem hon fun next hc => hc.2 switch ?_ ?_
    · exact honly ▸ List.mem_singleton_self switch
    · exact h.next_eq _ _ _ hc.1 hn
  rcases List.mem_append.1 hm with hsource | hswitch
  · exact ⟨stage, hsource, Option.some.inj ((hw.trail stage).getLast?_eq.symm.trans hl)⟩
  · rw [honly, List.mem_singleton] at hswitch
    subst hswitch
    exact absurd hn ((h.trail_of_switch hw honly).ended name hl _)

/-- The ends of the trails of the sources are different. -/
theorem nodup_ends (h : t.Sound) (hw : t.Ways way) :
    (t.sources.map fun source => endOf (way source)).Nodup := by
  refine (h.distinct.of_map.filter _).map_on fun a ha b hb heq => ?_
  exact hw.source_eq ha hb (hw.trail a).endOf_mem (heq ▸ (hw.trail b).endOf_mem)

/-- They are the inputs of the switch. -/
theorem perm_ends (h : t.Sound) (hw : t.Ways way) (hs : t.soleSink = .ok sink)
    (honly : t.switches = [switch]) :
    (t.sources.map fun source => endOf (way source)).Perm (t.switchInputs.map Prod.snd) := by
  have once := h.nodup_switchInputs hs honly
  refine (List.perm_ext_iff_of_nodup (h.nodup_ends hw) once).2 fun name => ?_
  rw [h.mem_switchInputs honly, List.mem_map]
  constructor
  · rintro ⟨source, hm, rfl⟩
    exact h.feeds_endOf hw hs honly hm
  · exact h.exists_source_of_feeds hw honly

theorem exists_forked (h : t.Sound) (hs : t.soleSink = .ok sink) (hmode : t.mode = .live) :
    ∃ switch branch entrance chain, t.Forked switch sink branch entrance chain := by
  obtain ⟨way, hw⟩ := h.exists_ways
  obtain ⟨switch, honly⟩ := h.exists_switch hmode
  have hswitch := mem_switches.1 (honly ▸ List.mem_singleton_self switch)
  have onward := h.trail_of_switch hw honly
  obtain ⟨chain, hchain⟩ := List.head?_eq_some_iff.1 onward.head
  rw [hchain] at onward
  have ends := h.perm_ends hw hs honly
  have count : t.sources.length = t.switchInputs.length := by simpa using ends.length_eq
  refine ⟨switch, way, fun source => endOf (way source), chain,
    { only := honly
      trail := fun source hm => ?_
      onward := onward
      last := (h.trail_to_sink hs (mem_names_of_mem hswitch.1) onward).1
      all := by simpa [honly, hchain] using hw.all
      entered := fun source _ => (hw.trail source).getLast?_eq
      entrances := ends
      apart := h.nodup_ends hw
      decides := fun input hm => ?_
      count := count
      several := count ▸ h.two_le_switchInputs honly
      live := ?_ }⟩
  · exact (hw.trail source).append (fun _ _ hab => hab.1) (hw.trail source).getLast?_eq
      (h.feeds_endOf hw hs honly hm) onward
  · obtain ⟨source, hsource, heq⟩ := List.mem_map.1 (ends.mem_iff.2 (List.mem_map_of_mem hm))
    have hon : input.2 ∈ way source := heq ▸ (hw.trail source).endOf_mem
    exact ⟨source, ⟨hsource, hon⟩, fun other ho => hw.source_eq ho.1 hsource ho.2 hon⟩
  · obtain ⟨source, hm, hk, hb⟩ := h.liveSource hmode
    exact ⟨source, mem_sources.2 ⟨hm, hk⟩, hb⟩

end Sound

/-- The shape of a graph that passes the check. From every stage there is one way, which ends at the
sink; there is one link less than there are stages. Without live input all stages lie on one chain;
with it, the switch decides which source is followed to the sink. -/
theorem layout_of_check {t : Topology} (h : t.check = .ok ()) :
    ∃ sink, t.soleSink = .ok sink ∧
      (∀ stage ∈ t.stages, ∃ way, Trail t.Feeds stage.name way ∧
        way.getLast? = some sink.name ∧
        ∀ other, other.head? = some stage.name → List.IsChain t.Feeds other → other <+: way) ∧
      t.links.length + 1 = t.stages.length ∧
      match t.mode with
      | .fallbackOnly => ∃ source chain, t.Single source sink chain
      | .live => ∃ switch branch entrance chain, t.Forked switch sink branch entrance chain := by
  have h := check_eq_ok.1 h
  obtain ⟨sink, hs⟩ := h.exists_sink
  refine ⟨sink, hs, fun stage hm => ?_, h.length_links hs, ?_⟩
  · obtain ⟨way, hway⟩ := h.exists_trail stage.name
    have hl := (h.trail_to_sink hs (mem_names_of_mem hm) hway).1
    exact ⟨way, hway, hl, fun _ => hway.isPrefix h.next_eq⟩
  · cases hmode : t.mode with
    | fallbackOnly => exact h.exists_single hs hmode
    | live => exact h.exists_forked hs hmode

/-- The shape of a chain and of a graph with two sources. -/
theorem layout_of_trial :
    (pictureAlone.check = .ok () ∧
      ∃ source sink chain, pictureAlone.Single source sink chain) ∧
    (twoSources.check = .ok () ∧ ∃ switch sink branch entrance chain,
      twoSources.Forked switch sink branch entrance chain) := by
  have hp : pictureAlone.check = .ok () := by decide +kernel
  have ht : twoSources.check = .ok () := by decide +kernel
  refine ⟨⟨hp, ?_⟩, ht, ?_⟩
  · obtain ⟨sink, -, -, -, source, chain, hc⟩ := layout_of_check hp
    exact ⟨source, sink, chain, hc⟩
  · obtain ⟨sink, -, -, -, switch, branch, entrance, chain, hf⟩ := layout_of_check ht
    exact ⟨switch, sink, branch, entrance, chain, hf⟩

end StandbyStream.Topology
