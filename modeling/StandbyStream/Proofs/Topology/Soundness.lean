import StandbyStream.Proofs.Checks
import StandbyStream.Proofs.Topology.Ordering
import StandbyStream.Proofs.Topology.Trail
import StandbyStream.Proofs.Topology.Walk

/-!
# Sound topologies

The check of a topology passes exactly the sound ones (`check_iff_sound`): `Sound` says what a graph
has to be like without saying how that is found out. So neither the order in which stages and links
are listed nor the order in which ready stages are taken makes a difference.

That the first outputs lead to the sink is checked as well, but follows from the rest
(`Sound.checkReach`): where a way ends nothing goes out, and only the sink has no output.
-/

namespace StandbyStream

/-- A stage without its properties. -/
def Stage.outline (stage : Stage) : Stage :=
  { stage with properties := [] }

namespace Topology

open Checks

variable {t : Topology}

/-- Number of links out of the stage of the name. -/
def fanOut (t : Topology) (name : String) : Nat :=
  t.links.countP (·.source = name)

/-- What a graph has to be like. -/
structure Sound (t : Topology) : Prop extends t.Wired where
  oneSink : t.stages.countP (·.kind = .sink) = 1
  switches : t.stages.countP (·.kind = .switch) =
    match t.mode with
    | .live => 1
    | .fallbackOnly => 0
  inputs : ∀ stage ∈ t.stages,
    match stage.kind with
    | .source => t.fanIn stage.name = 0
    | .switch => 2 ≤ t.fanIn stage.name
    | _ => t.fanIn stage.name = 1
  outputs : ∀ stage ∈ t.stages, t.fanOut stage.name = if stage.kind = .sink then 0 else 1
  acyclic : t.Acyclic
  liveSource : t.mode = .live → ∃ stage ∈ t.stages, stage.kind = .source ∧ stage.branch = .live

/-! ## What each check finds -/

theorem length_outputs (t : Topology) (name : String) :
    (t.outputs name).length = t.fanOut name := by
  rw [Topology.outputs, List.length_map, fanOut, List.countP_eq_length_filter]
  rfl

theorem duplicate?_eq_none {seen : List String} {stages : List Stage} :
    duplicate? seen stages = none ↔
      (stages.map (·.name)).Nodup ∧ ∀ stage ∈ stages, stage.name ∉ seen := by
  induction stages generalizing seen with
  | nil => simp [duplicate?]
  | cons stage stages ih =>
      rw [duplicate?]
      split
      · next h => simp [h]
      · next h =>
          rw [ih]
          simp only [List.mem_cons, not_or, List.map_cons, List.nodup_cons, List.mem_map,
            forall_eq_or_imp, not_exists, not_and]
          constructor
          · rintro ⟨hd, hs⟩
            exact ⟨⟨fun other ho => (hs other ho).1, hd⟩, h, fun other ho => (hs other ho).2⟩
          · rintro ⟨⟨hne, hd⟩, -, hs⟩
            exact ⟨hd, fun other ho => ⟨hne other ho, hs other ho⟩⟩

theorem unknownEnd?_eq_none {names : List String} {links : List Link} :
    unknownEnd? names links = none ↔ ∀ link ∈ links, link.source ∈ names ∧ link.target ∈ names := by
  induction links with
  | nil => simp [unknownEnd?]
  | cons link links ih =>
      rw [unknownEnd?]
      split
      · next h => simp [h]
      · next h =>
          split
          · next h' => simp [h']
          · next h' => simp [ih, not_not.1 h, not_not.1 h']

theorem checkNames_eq_ok : t.checkNames = .ok () ↔ t.names.Nodup := by
  have h : duplicate? [] t.stages = none ↔ t.names.Nodup := by
    simp [duplicate?_eq_none, names]
  rw [checkNames, ← h]
  split <;> simp [*]

theorem checkEnds_eq_ok : t.checkEnds = .ok () ↔
    ∀ link ∈ t.links, link.source ∈ t.names ∧ link.target ∈ t.names := by
  rw [checkEnds, names, ← unknownEnd?_eq_none]
  split <;> simp [*]

theorem soleSink_eq_ok {sink : Stage} :
    t.soleSink = .ok sink ↔ t.stages.filter (·.kind == .sink) = [sink] := by
  rw [soleSink]
  split
  · next h => simp [h]
  · next h => simp [h]
  · next h _ => simpa using h sink

theorem exists_soleSink :
    (∃ sink, t.soleSink = .ok sink) ↔ t.stages.countP (·.kind = .sink) = 1 := by
  simp only [soleSink_eq_ok, ← List.length_eq_one_iff, List.countP_eq_length_filter]
  rfl

theorem checkSwitches_eq_ok : t.checkSwitches = .ok () ↔
    t.stages.countP (·.kind = .switch) =
      match t.mode with
      | .live => 1
      | .fallbackOnly => 0 :=
  ite_eq_ok

theorem checkInputs_eq_ok {stage : Stage} : t.checkInputs stage = .ok () ↔
    match stage.kind with
    | .source => t.fanIn stage.name = 0
    | .switch => 2 ≤ t.fanIn stage.name
    | _ => t.fanIn stage.name = 1 := by
  rw [checkInputs]
  cases stage.kind <;> exact ite_eq_ok

theorem checkOutputs_eq_ok {stage : Stage} : t.checkOutputs stage = .ok () ↔
    t.fanOut stage.name = if stage.kind = .sink then 0 else 1 := by
  rw [checkOutputs, ← length_outputs]
  cases stage.kind <;> exact ite_eq_ok

theorem checkOrder_eq_ok {o : Ordering} :
    t.checkOrder o = .ok () ↔ o.ordered = t.stages.length :=
  ite_eq_ok

theorem checkLive_eq_ok : t.checkLive = .ok () ↔
    (t.mode = .live → ∃ stage ∈ t.stages, stage.kind = .source ∧ stage.branch = .live) := by
  have h : t.liveSource?.isSome = true ↔
      ∃ stage ∈ t.stages, stage.kind = .source ∧ stage.branch = .live := by
    simp [liveSource?, List.find?_isSome]
  rw [← h]
  exact ite_eq_ok

/-! ## Ways to the sink -/

/-- If no more than one member passes, those that pass are the same. -/
theorem eq_of_countP_le_one {α : Type} {p : α → Bool} {xs : List α} (h : xs.countP p ≤ 1) {a b : α}
    (ha : a ∈ xs) (hb : b ∈ xs) (pa : p a = true) (pb : p b = true) : a = b := by
  have ha := List.mem_filter.2 ⟨ha, pa⟩
  have hb := List.mem_filter.2 ⟨hb, pb⟩
  rw [List.countP_eq_length_filter] at h
  match xs.filter p, h, ha, hb with
  | [x], _, ha, hb => exact (List.mem_singleton.1 ha).trans (List.mem_singleton.1 hb).symm

section

variable {sink stage : Stage} (hs : t.soleSink = .ok sink) (hm : stage ∈ t.stages)

include hs hm

/-- A stage that feeds nothing is the sink, where every other stage has an output. -/
theorem eq_sink_of_fanOut (hout : t.fanOut stage.name = if stage.kind = .sink then 0 else 1)
    (hend : ∀ next, ¬ t.Feeds stage.name next) : stage = sink := by
  have hk : stage.kind = .sink := by
    by_contra hk
    rw [if_neg hk, ← length_outputs] at hout
    obtain ⟨next, hout⟩ := List.length_eq_one_iff.1 hout
    exact hend next (mem_outputs.1 (hout ▸ List.mem_singleton_self next))
  have hm : stage ∈ t.stages.filter (·.kind == .sink) := List.mem_filter.2 ⟨hm, by simp [hk]⟩
  rwa [soleSink_eq_ok.1 hs, List.mem_singleton] at hm

/-- There every walk ends at the sink, if there is no cycle. -/
theorem walk_to_sink (hw : t.Wired) (hc : t.Acyclic)
    (hout : ∀ stage ∈ t.stages, t.fanOut stage.name = if stage.kind = .sink then 0 else 1) :
    t.walk [] stage.name = .ok sink.name := by
  obtain ⟨last, hl, hend, hwalk⟩ :=
    walk_of_acyclic hw hc (mem_names_of_mem hm) (List.forall_mem_nil _)
  obtain ⟨other, ho, rfl⟩ := mem_names.1 hl
  rw [hwalk, eq_sink_of_fanOut hs ho (hout other ho) hend]

end

theorem checkReach_of_walk (hw : t.Wired) {sink stage : Stage} (hm : stage ∈ t.stages)
    (h : t.walk [] stage.name = .ok sink.name) : t.checkReach sink stage = .ok () := by
  rw [checkReach_eq_walk hw hm, h]
  exact if_pos rfl

namespace Sound

theorem fanOut_le_one (h : t.Sound) (name : String) : t.fanOut name ≤ 1 := by
  by_cases hn : name ∈ t.names
  · obtain ⟨stage, hs, rfl⟩ := mem_names.1 hn
    rw [h.outputs stage hs]
    split <;> omega
  · have hzero : t.fanOut name = 0 := by
      refine List.countP_eq_zero.2 fun link hm heq => hn ?_
      rw [← of_decide_eq_true heq]
      exact (h.known link hm).1
    omega

/-- A stage feeds at most one. -/
theorem next_eq (h : t.Sound) (a b c : String) (hb : t.Feeds a b) (hc : t.Feeds a c) : b = c :=
  (Link.mk.inj (eq_of_countP_le_one (h.fanOut_le_one a) hb hc (by simp) (by simp))).2

theorem exists_sink (h : t.Sound) : ∃ sink, t.soleSink = .ok sink :=
  exists_soleSink.2 h.oneSink

/-- A stage that feeds nothing is the sink. -/
theorem eq_sink (h : t.Sound) {sink : Stage} (hs : t.soleSink = .ok sink) {name : String}
    (hn : name ∈ t.names) (hend : ∀ next, ¬ t.Feeds name next) : name = sink.name := by
  obtain ⟨stage, hm, rfl⟩ := mem_names.1 hn
  rw [eq_sink_of_fanOut hs hm (h.outputs stage hm) hend]

/-- Trails end at the sink, along fewer links than there are stages. -/
theorem trail_to_sink (h : t.Sound) {sink : Stage} (hs : t.soleSink = .ok sink) {name : String}
    (hn : name ∈ t.names) {way : List String} (hw : Trail t.Feeds name way) :
    way.getLast? = some sink.name ∧ way.length ≤ t.stages.length := by
  have hsub := mem_of_isChain (fun _ _ => h.target_mem) hw.chain hw.head hn
  have once := nodup_of_isChain h.acyclic hw.chain
  obtain ⟨last, hl⟩ := hw.exists_last
  have hsink := h.eq_sink hs (hsub last (List.mem_of_getLast? hl)) (hw.ended last hl)
  refine ⟨hl.trans (congrArg some hsink), ?_⟩
  simpa using (once.subperm hsub).length_le

theorem exists_trail (h : t.Sound) (name : String) : ∃ way, Trail t.Feeds name way :=
  Trail.exists_of_wellFounded (h.wellFounded_fedBy h.acyclic) name

/-- The outputs lead from every stage to the sink. -/
theorem checkReach (h : t.Sound) {sink : Stage} (hs : t.soleSink = .ok sink) {stage : Stage}
    (hm : stage ∈ t.stages) : t.checkReach sink stage = .ok () :=
  checkReach_of_walk h.toWired hm (walk_to_sink hs hm h.toWired h.acyclic h.outputs)

end Sound

/-! ## The check -/

/-- The check of a graph passes exactly if each part of it does. -/
theorem checkOrdered_eq_ok {o : Ordering} : t.checkOrdered o = .ok () ↔
    t.checkNames = .ok () ∧ t.checkEnds = .ok () ∧ ∃ sink, t.soleSink = .ok sink ∧
      t.checkSwitches = .ok () ∧ (∀ stage ∈ t.stages, t.checkFans stage = .ok ()) ∧
      t.checkOrder o = .ok () ∧ (∀ stage ∈ t.stages, t.checkReach sink stage = .ok ()) ∧
      t.checkLive = .ok () := by
  rw [checkOrdered, seq_eq_ok, seq_eq_ok, bind_eq_ok]
  simp only [seq_eq_ok, forM_eq_ok]

/-- Which of the stages that are ready are taken first makes no difference to the check. -/
theorem checkOrdered_eq_check {placed : List String} {o : Ordering}
    (h : Ordering.Course t placed o) (hr : o.ready = []) : t.checkOrdered o = t.check := by
  -- without names of their own and known ends the counts mean nothing, but then the check does
  -- not come as far as the order
  rw [check, checkOrdered, checkOrdered]
  cases hn : t.checkNames with
  | error => rfl
  | ok =>
      cases he : t.checkEnds with
      | error => rfl
      | ok =>
          have hw : t.Wired := ⟨checkNames_eq_ok.1 hn, checkEnds_eq_ok.1 he⟩
          obtain ⟨placed', h', hr'⟩ := course_ordering hw
          have horder : t.checkOrder o = t.checkOrder t.ordering :=
            if_congr ((h.ordered_eq_iff hw hr).trans (h'.ordered_eq_iff hw hr').symm) rfl rfl
          rw [horder]

theorem check_eq_ok : t.check = .ok () ↔ t.Sound := by
  rw [check, checkOrdered_eq_ok]
  constructor
  · -- the way to the sink is not used: it says nothing that the other checks do not say
    rintro ⟨hn, he, sink, hs, hswitches, hfans, horder, -, hlive⟩
    have hw : t.Wired := ⟨checkNames_eq_ok.1 hn, checkEnds_eq_ok.1 he⟩
    obtain ⟨placed, h, hr⟩ := course_ordering hw
    have hfans stage hm := seq_eq_ok.1 (hfans stage hm)
    exact
      { hw with
        oneSink := exists_soleSink.1 ⟨sink, hs⟩
        switches := checkSwitches_eq_ok.1 hswitches
        inputs := fun stage hm => checkInputs_eq_ok.1 (hfans stage hm).1
        outputs := fun stage hm => checkOutputs_eq_ok.1 (hfans stage hm).2
        acyclic := (h.ordered_eq_iff hw hr).1 (checkOrder_eq_ok.1 horder)
        liveSource := checkLive_eq_ok.1 hlive }
  · intro hsound
    obtain ⟨placed, h, hr⟩ := course_ordering hsound.toWired
    obtain ⟨sink, hs⟩ := hsound.exists_sink
    have hfans stage hm : t.checkFans stage = .ok () :=
      seq_eq_ok.2 ⟨checkInputs_eq_ok.2 (hsound.inputs stage hm),
        checkOutputs_eq_ok.2 (hsound.outputs stage hm)⟩
    exact ⟨checkNames_eq_ok.2 hsound.distinct, checkEnds_eq_ok.2 hsound.known, sink, hs,
      checkSwitches_eq_ok.2 hsound.switches, hfans,
      checkOrder_eq_ok.2 ((h.ordered_eq_iff hsound.toWired hr).2 hsound.acyclic),
      fun _ => hsound.checkReach hs, checkLive_eq_ok.2 hsound.liveSource⟩

/-! ## Graphs that are sound together -/

/-- The stages without their properties. -/
def outlines (t : Topology) : List Stage :=
  t.stages.map Stage.outline

section

variable {u : Topology} (hstages : u.outlines.Perm t.outlines)

include hstages

theorem names_of_outlines : u.names.Perm t.names := by
  have own (t : Topology) : t.names = t.outlines.map (·.name) := by
    rw [outlines, List.map_map]
    rfl
  rw [own, own]
  exact hstages.map _

/-- What depends on the outlines alone holds of as many stages. -/
theorem countP_of_outlines {p : Stage → Bool} (hp : ∀ stage, p stage.outline = p stage) :
    u.stages.countP p = t.stages.countP p := by
  have own (t : Topology) : t.stages.countP p = t.outlines.countP p := by
    rw [outlines, List.countP_map]
    exact List.countP_congr fun stage _ => by simp [hp]
  rw [own, own]
  exact hstages.countP_eq p

theorem exists_of_outlines {stage : Stage} (hm : stage ∈ u.stages) :
    ∃ other ∈ t.stages,
      stage.name = other.name ∧ stage.kind = other.kind ∧ stage.branch = other.branch := by
  have hm : stage.outline ∈ t.outlines := hstages.mem_iff.1 (List.mem_map_of_mem hm)
  obtain ⟨other, ho, heq⟩ := List.mem_map.1 hm
  obtain ⟨hname, -, hkind, hbranch, -⟩ := Stage.mk.inj heq
  exact ⟨other, ho, hname.symm, hkind.symm, hbranch.symm⟩

/-- What makes a graph sound does not depend on the order in which stages and links are listed, nor
on what the stages are configured with. -/
theorem Sound.of_perm (h : t.Sound) (hmode : u.mode = t.mode) (hlinks : u.links.Perm t.links) :
    u.Sound := by
  have hnames := names_of_outlines hstages
  have hfeeds : u.Feeds = t.Feeds := by
    funext a b
    exact propext hlinks.mem_iff
  have hin name : u.fanIn name = t.fanIn name := hlinks.countP_eq _
  have hout name : u.fanOut name = t.fanOut name := hlinks.countP_eq _
  refine
    { distinct := hnames.nodup_iff.2 h.distinct
      known := fun link hm => ?_
      oneSink := (countP_of_outlines hstages fun _ => rfl).trans h.oneSink
      switches := ?_
      inputs := fun stage hm => ?_
      outputs := fun stage hm => ?_
      acyclic := ?_
      liveSource := fun hlive => ?_ }
  · simpa only [hnames.mem_iff] using h.known link (hlinks.mem_iff.1 hm)
  · rw [hmode]
    exact (countP_of_outlines hstages fun _ => rfl).trans h.switches
  · obtain ⟨other, ho, hname, hkind, -⟩ := exists_of_outlines hstages hm
    rw [hin, hname, hkind]
    exact h.inputs other ho
  · obtain ⟨other, ho, hname, hkind, -⟩ := exists_of_outlines hstages hm
    rw [hout, hname, hkind]
    exact h.outputs other ho
  · rw [Acyclic, hfeeds]
    exact h.acyclic
  · obtain ⟨other, ho, hkind, hbranch⟩ := h.liveSource (hmode ▸ hlive)
    obtain ⟨stage, hm, -, hk, hb⟩ := exists_of_outlines hstages.symm ho
    exact ⟨stage, hm, hk.symm.trans hkind, hb.symm.trans hbranch⟩

end

/-- The check passes exactly the sound graphs. Whether it passes depends neither on the order in
which the stages are listed nor on that of the links, and what it reports does not depend on which
of the stages that are ready are ordered first. -/
theorem check_iff_sound (t : Topology) :
    (t.check = .ok () ↔ t.Sound) ∧
    (∀ u : Topology, u.mode = t.mode → u.stages.Perm t.stages → u.links.Perm t.links →
      (u.check = .ok () ↔ t.check = .ok ())) ∧
    (∀ placed o, Ordering.Course t placed o → o.ready = [] → t.checkOrdered o = t.check) := by
  refine ⟨check_eq_ok, fun u hmode hstages hlinks => ?_, fun _ _ h hr =>
    checkOrdered_eq_check h hr⟩
  rw [check_eq_ok, check_eq_ok]
  constructor
  · exact fun h => h.of_perm (hstages.symm.map _) hmode.symm hlinks.symm
  · exact fun h => h.of_perm (hstages.map _) hmode hlinks

/-! ## Trial graphs -/

/-- A graph of stages that differ in name, kind and branch. -/
def trialGraph (mode : Mode) (stages : List (String × StageKind × Branch))
    (links : List (String × String)) : Topology where
  mode := mode
  encoding := .h264
  fps := 30
  destination := .udp "h" 1
  stages := stages.map fun (name, kind, branch) => .plain name "identity" kind branch
  links := links.map fun (source, target) => ⟨source, target⟩

/-- One chain. -/
def pictureAlone : Topology :=
  trialGraph .fallbackOnly [("picture", .source, .fallback), ("outlet", .sink, .tail)]
    [("picture", "outlet")]

/-- One chain and two stages beside it that feed each other. -/
def besideRing : Topology :=
  trialGraph .fallbackOnly [("picture", .source, .fallback), ("outlet", .sink, .tail),
    ("one", .filter, .tail), ("other", .filter, .tail)]
    [("picture", "outlet"), ("one", "other"), ("other", "one")]

/-- Two sources and the switch. -/
def twoSources : Topology :=
  trialGraph .live [("camera", .source, .live), ("picture", .source, .fallback),
    ("crossing", .switch, .tail), ("outlet", .sink, .tail)]
    [("camera", "crossing"), ("picture", "crossing"), ("crossing", "outlet")]

/-- The graph of two sources, listed the other way round. -/
def twoSourcesBack : Topology :=
  { twoSources with stages := twoSources.stages.reverse, links := twoSources.links.reverse }

/-- The ordering of the graph of two sources that takes the second source first. -/
def pictureFirst : Ordering :=
  let taken := Ordering.place twoSources (.start twoSources) "picture" ["camera"]
  let taken := Ordering.place twoSources taken "camera" []
  let taken := Ordering.place twoSources taken "crossing" []
  Ordering.place twoSources taken "outlet" []

theorem course_pictureFirst :
    Ordering.Course twoSources ["outlet", "crossing", "camera", "picture"] pictureFirst :=
  (((Ordering.Course.start.next (by decide)).next (by decide)).next (by decide)).next (by decide)

/-- The graph of two sources passes, however it is listed and whichever source is taken first; the
one with a ring does not, though all stages have as many links as they should. -/
theorem check_iff_sound_of_trial :
    twoSources.Sound ∧ twoSourcesBack.check = .ok () ∧
      twoSources.checkOrdered pictureFirst = .ok () ∧
      (∀ stage ∈ besideRing.stages, besideRing.checkFans stage = .ok ()) ∧ ¬ besideRing.Sound := by
  have ht : twoSources.check = .ok () := by decide +kernel
  have hr : besideRing.check ≠ .ok () := by decide +kernel
  obtain ⟨hsound, hperm, hcourse⟩ := check_iff_sound twoSources
  have hback := hperm twoSourcesBack rfl (List.reverse_perm _) (List.reverse_perm _)
  have hfirst := hcourse _ pictureFirst course_pictureFirst (by decide +kernel)
  exact ⟨hsound.1 ht, hback.2 ht, hfirst.trans ht, by decide +kernel,
    fun h => hr ((check_iff_sound besideRing).1.2 h)⟩

end Topology

end StandbyStream
