import StandbyStream.Proofs.Topology.Soundness

/-!
# The worklist of the ordering

The stages that are ready stand on a worklist. In each turn one of them is taken, any, and then the
stages that it feeds are told, one after the other, that they wait for one input less; the last of
these messages puts a stage on the worklist. A `Moment` is a state that the loop can come to,
between two turns or between two messages of a turn. At every moment the counts are the numbers of
links from stages that have not been taken and of messages that are still due (`Kept`), so that a
count is never lowered from zero and no stage is put on the worklist twice (`Accounted`). Since a
turn takes one stage, there are no more turns than stages (`Iterates.exists_not_ready`).

If all stages have been taken there is no cycle, and from each of them a walk ends at the sink. So
once the stages are ordered, only the last check can still fail (`Admitted.checkOrdered_eq`).
-/

namespace StandbyStream.Topology

variable {t : Topology}

namespace Ordering

/-! ## Turns and messages -/

/-- The states that the loop can come to. With them come the stages that have been taken, the
latest first; those that have been put on the worklist, in this order; and those that are still to
be told of an input, once for each link. -/
inductive Moment (t : Topology) : List String → List String → List String → Ordering → Prop
  /-- The stages without inputs are on the worklist. -/
  | start : Moment t [] (start t).ready [] (start t)
  /-- Any stage of the worklist is taken. All that it feeds are to be told. -/
  | take {placed queued rest : List String} {o : Ordering} {name : String}
      (h : Moment t placed queued [] o) (hr : o.ready.Perm (name :: rest)) :
      Moment t (name :: placed) queued (t.outputs name)
        { o with ready := rest, ordered := o.ordered + 1 }
  /-- A stage is told, which may put it on the worklist. -/
  | tell {placed queued added due : List String} {o : Ordering} {name : String}
      (h : Moment t placed queued (name :: due) o)
      (ha : (o.release name).ready = o.ready ++ added) :
      Moment t placed (queued ++ added) due (o.release name)

theorem exists_added (o : Ordering) (name : String) :
    ∃ added, (o.release name).ready = o.ready ++ added := by
  rw [release]
  split
  · exact ⟨[name], rfl⟩
  · exact ⟨[], (List.append_nil _).symm⟩

section

variable {placed queued due : List String} {o : Ordering}

/-- Once all have been told the turn is over. -/
theorem Moment.tellAll (h : Moment t placed queued due o) :
    ∃ queued', Moment t placed queued' [] (due.foldl release o) := by
  induction due generalizing queued o with
  | nil => exact ⟨queued, h⟩
  | cons name due ih =>
      obtain ⟨added, ha⟩ := exists_added o name
      exact ih (h.tell ha)

theorem Course.exists_moment (h : Course t placed o) : ∃ queued, Moment t placed queued [] o := by
  induction h with
  | start => exact ⟨_, .start⟩
  | next _ hr ih =>
      -- one step of a course is a whole turn
      obtain ⟨queued, hm⟩ := ih
      exact (hm.take hr).tellAll

/-- What remains of a turn leads to the next one. -/
theorem Moment.course (h : Moment t placed queued due o) :
    Course t placed (due.foldl release o) := by
  -- the messages that are due when a stage is taken are those of the step of the course
  induction h with
  | start => exact .start
  | take _ hr ih => exact ih.next hr
  | tell _ _ ih => exact ih

/-- Between two turns the states are those of the courses. -/
theorem course_iff_moment : Course t placed o ↔ ∃ queued, Moment t placed queued [] o := by
  constructor
  · exact Course.exists_moment
  · rintro ⟨queued, h⟩
    exact h.course

/-! ## What is kept -/

/-- What holds at every moment. -/
structure Kept (t : Topology) (placed queued due : List String) (o : Ordering) : Prop where
  inOrder : t.InOrder placed
  tallies : Tallies t placed due o
  owed : ∀ name ∈ due, name ∈ t.names ∧ name ∉ placed
  logged : queued.Perm (placed ++ o.ready)

namespace Kept

theorem start (hw : t.Wired) : Kept t [] (start t).ready [] (start t) where
  inOrder := .nil
  tallies := tallies_start hw
  owed := by simp
  logged := .refl _

theorem take {rest : List String} {name : String} (h : Kept t placed queued [] o) (hw : t.Wired)
    (hr : o.ready.Perm (name :: rest)) :
    Kept t (name :: placed) queued (t.outputs name)
      { o with ready := rest, ordered := o.ordered + 1 } := by
  have hi := h.tallies.inOrder h.inOrder hr
  refine ⟨hi, h.tallies.take hr, hi.outputs hw, ?_⟩
  calc
    List.Perm queued (placed ++ o.ready) := h.logged
    List.Perm _ (placed ++ name :: rest) := hr.append_left placed
    List.Perm _ (name :: placed ++ rest) := List.perm_middle

theorem tell {added : List String} {name : String} (h : Kept t placed queued (name :: due) o)
    (ha : (o.release name).ready = o.ready ++ added) :
    Kept t placed (queued ++ added) due (o.release name) := by
  obtain ⟨⟨hn, fresh⟩, howed⟩ := List.forall_mem_cons.1 h.owed
  refine ⟨h.inOrder, h.tallies.release hn fresh, howed, ?_⟩
  rw [ha, ← List.append_assoc]
  exact h.logged.append_right added

end Kept

theorem Moment.kept (h : Moment t placed queued due o) (hw : t.Wired) :
    Kept t placed queued due o := by
  induction h with
  | start => exact .start hw
  | take _ hr ih => exact ih.take hw hr
  | tell _ ha ih => exact ih.tell ha

/-! ## What follows for the worklist -/

/-- The worklist is in order. Between two turns nothing is due, so that the counts are the numbers
of links from stages that have not been taken. -/
structure Accounted (t : Topology) (placed queued due : List String) (o : Ordering) : Prop where
  /-- A stage waits for the links from stages that have not been taken, and for what it is still to
  be told. -/
  counts : ∀ name ∈ t.names, o.pending.lookup name = some (t.waiting placed name + due.count name)
  /-- The count of a stage that is to be told is not zero. -/
  positive : ∀ name ∈ due, ∃ count, o.pending.lookup name = some (count + 1)
  /-- What has been put on the worklist is taken or still there. -/
  logged : queued.Perm (placed ++ o.ready)
  queuedOnce : queued.Nodup
  placedOnce : placed.Nodup
  known : queued ⊆ t.names
  /-- The number of turns that have been begun. -/
  turns : o.ordered = placed.length
  /-- There are stages enough for those that have been taken and those that are ready. -/
  room : o.ordered + o.ready.length ≤ t.stages.length

namespace Kept

theorem positive (h : Kept t placed queued due o) {name : String} (hd : name ∈ due) :
    ∃ count, o.pending.lookup name = some (count + 1) := by
  have hpos : 0 < due.count name := List.count_pos_iff.2 hd
  obtain ⟨count, hc⟩ : ∃ count, t.waiting placed name + due.count name = count + 1 :=
    Nat.exists_eq_add_one.2 (by omega)
  exact ⟨count, (h.tallies.counts name (h.owed name hd).1).trans (congrArg some hc)⟩

theorem nodup_queued (h : Kept t placed queued due o) : queued.Nodup := by
  rw [h.logged.nodup_iff, List.nodup_append]
  -- a stage that has been taken is not ready again
  refine ⟨h.inOrder.nodup, h.tallies.once, ?_⟩
  rintro a hp _ hr rfl
  exact ((h.tallies.ready a).1 hr).2.1 hp

theorem queued_subset (h : Kept t placed queued due o) : queued ⊆ t.names := by
  intro name hq
  rcases List.mem_append.1 (h.logged.mem_iff.1 hq) with hp | hr
  · exact h.inOrder.subset name hp
  · exact ((h.tallies.ready name).1 hr).1

theorem accounted (h : Kept t placed queued due o) : Accounted t placed queued due o where
  counts := h.tallies.counts
  positive _ hd := h.positive hd
  logged := h.logged
  queuedOnce := h.nodup_queued
  placedOnce := h.inOrder.nodup
  known := h.queued_subset
  turns := h.tallies.ordered
  room := by
    have hle := (h.nodup_queued.subperm h.queued_subset).length_le
    rw [h.logged.length_eq, List.length_append, length_names] at hle
    rw [h.tallies.ordered]
    exact hle

end Kept

end

/-! ## The end of the loop -/

/-- The states between the turns of a loop that goes on as long as the worklist is not empty,
whatever it takes next. -/
structure Iterates (t : Topology) (state : Nat → Ordering) : Prop where
  start : state 0 = start t
  next : ∀ k, (state k).ready ≠ [] → ∃ name rest, (state k).ready.Perm (name :: rest) ∧
    state (k + 1) = place t (state k) name rest

namespace Iterates

variable {state : Nat → Ordering}

/-- As long as the loop goes on each turn takes a stage. -/
theorem exists_course (h : Iterates t state) {k : Nat} (on : ∀ i < k, (state i).ready ≠ []) :
    ∃ placed, Course t placed (state k) ∧ placed.length = k := by
  induction k with
  | zero => exact ⟨[], h.start ▸ .start, rfl⟩
  | succ k ih =>
      obtain ⟨placed, hc, hl⟩ := ih fun i hi => on i (by omega)
      obtain ⟨name, rest, hr, hstep⟩ := h.next k (on k (Nat.lt_succ_self k))
      refine ⟨name :: placed, ?_, congrArg Nat.succ hl⟩
      rw [hstep]
      exact hc.next hr

/-- After as many turns as there are stages the worklist is empty, if it was not before. -/
theorem exists_not_ready (h : Iterates t state) (hw : t.Wired) :
    ∃ k ≤ t.stages.length, (state k).ready = [] := by
  by_contra hnone
  -- otherwise all stages have been taken by then, and one more is ready
  have on k (hk : k ≤ t.stages.length) : (state k).ready ≠ [] :=
    fun hr => hnone ⟨k, hk, hr⟩
  obtain ⟨placed, hc, hl⟩ := h.exists_course fun i hi => on i (Nat.le_of_lt hi)
  obtain ⟨queued, hm⟩ := course_iff_moment.1 hc
  have hroom := (hm.kept hw).accounted.room
  have hpos := List.length_pos_of_ne_nil (on _ (Nat.le_refl _))
  rw [(hc.tallies hw).ordered] at hroom
  omega

end Iterates

theorem run_succ (steps : Nat) (o : Ordering) :
    run t (steps + 1) o = advance t (run t steps o) := by
  induction steps generalizing o with
  | zero => rfl
  | succ steps ih =>
      rw [run, ih]
      rfl

/-- The check is such a loop: it takes the stage that has been ready longest. -/
theorem iterates_run (t : Topology) : Iterates t fun steps => run t steps (start t) where
  start := rfl
  next := by
    intro k on
    obtain ⟨name, rest, hr⟩ := List.exists_cons_of_ne_nil on
    refine ⟨name, rest, .of_eq hr, ?_⟩
    rw [run_succ, advance, hr]

end Ordering

/-! ## Behind the order -/

/-- The checks before the order pass, and this is the sink. -/
@[mk_iff]
structure Admitted (t : Topology) (sink : Stage) : Prop where
  names : t.checkNames = .ok ()
  ends : t.checkEnds = .ok ()
  sole : t.soleSink = .ok sink
  switches : t.checkSwitches = .ok ()
  fans : ∀ stage ∈ t.stages, t.checkFans stage = .ok ()

instance (t : Topology) (sink : Stage) : Decidable (t.Admitted sink) :=
  decidable_of_iff' _ (admitted_iff t sink)

namespace Admitted

variable {sink : Stage}

theorem wired (h : t.Admitted sink) : t.Wired :=
  ⟨checkNames_eq_ok.1 h.names, checkEnds_eq_ok.1 h.ends⟩

theorem fanOut_eq (h : t.Admitted sink) :
    ∀ stage ∈ t.stages, t.fanOut stage.name = if stage.kind = .sink then 0 else 1 := by
  intro stage hm
  exact checkOutputs_eq_ok.1 (Checks.seq_eq_ok.1 (h.fans stage hm)).2

/-- The check goes on to the order. -/
theorem checkOrdered_eq_bind (h : t.Admitted sink) (o : Ordering) :
    t.checkOrdered o = t.checkOrder o >>= fun _ =>
      t.stages.forM (t.checkReach sink) >>= fun _ => t.checkLive := by
  rw [checkOrdered, h.names, h.ends, h.sole, h.switches, Checks.forM_eq_ok.2 h.fans]
  rfl

variable {placed : List String} {o : Ordering}

/-- When all stages have been taken, every walk ends at the sink. -/
theorem walk_eq (h : t.Admitted sink) (hc : Ordering.Course t placed o)
    (hall : o.ordered = t.stages.length) :
    ∀ stage ∈ t.stages, t.walk [] stage.name = .ok sink.name := by
  intro stage hm
  have hmem := (hc.ordered_eq_iff_mem h.wired).1 hall
  have acyclic := hc.acyclic_of_mem_placed h.wired hmem
  exact walk_to_sink h.sole hm h.wired acyclic h.fanOut_eq

/-- Either a stage is left over, or all that is left to be checked is the source for live frames. -/
theorem checkOrdered_eq (h : t.Admitted sink) (hc : Ordering.Course t placed o) :
    t.checkOrdered o = if o.ordered = t.stages.length then t.checkLive else .error .cycle := by
  rw [h.checkOrdered_eq_bind, checkOrder]
  split
  · next hall =>
      have hreach stage (hm : stage ∈ t.stages) : t.checkReach sink stage = .ok () :=
        checkReach_of_walk h.wired hm (h.walk_eq hc hall stage hm)
      rw [Checks.forM_eq_ok.2 hreach]
      rfl
  · rfl

end Admitted

/-- In a graph that comes to the ordering of its stages, the worklist is in order at every moment,
whichever stage is taken next, and the loop ends after at most as many turns as there are stages;
so does that of the check. Between two turns the count of a stage is the number of links into it
from stages that have not been taken; and if all have been, a walk from any of them ends at the
sink. The check makes these walks, and finds nothing by them: if no stage is left over, it comes
down to the source for live frames. -/
theorem worklist_of_admitted {t : Topology} {sink : Stage} (h : t.Admitted sink) :
    (∀ placed queued due o, Ordering.Moment t placed queued due o →
      o.Accounted t placed queued due) ∧
    (∀ state, Ordering.Iterates t state → ∃ k ≤ t.stages.length, (state k).ready = []) ∧
    (Ordering.Iterates t (fun steps => Ordering.run t steps (.start t)) ∧
      t.ordering.ready = []) ∧
    (∀ stage ∈ t.stages, t.checkReach sink stage =
      t.walk [] stage.name >>= fun last =>
        if last = sink.name then .ok () else .error (.cutOff stage.name sink.name)) ∧
    (∀ placed queued o, Ordering.Moment t placed queued [] o →
      (∀ name ∈ t.names, o.pending.lookup name = some (t.waiting placed name)) ∧
      (o.ordered = t.stages.length →
        ∀ stage ∈ t.stages, t.walk [] stage.name = .ok sink.name) ∧
      t.checkOrdered o = if o.ordered = t.stages.length then t.checkLive else .error .cycle) := by
  have hw := h.wired
  refine ⟨?_, ?_, ⟨Ordering.iterates_run t, ?_⟩, ?_, ?_⟩
  · intro placed queued due o hm
    exact (hm.kept hw).accounted
  · intro state hi
    exact hi.exists_not_ready hw
  · obtain ⟨_, -, hr⟩ := course_ordering hw
    exact hr
  · intro stage hm
    exact checkReach_eq_walk hw hm
  · intro placed queued o hm
    have hc := Ordering.course_iff_moment.2 ⟨queued, hm⟩
    refine ⟨fun name hn => ?_, h.walk_eq hc, h.checkOrdered_eq hc⟩
    simpa using (hm.kept hw).tallies.counts name hn

/-- The sink of the trial graphs. -/
def outlet : Stage :=
  .plain "outlet" "identity" .sink .tail

/-- Where two sources lead to a switch, the switch waits for one of them when the other has been
taken; the graph passes. Where two stages feed each other both are left over. -/
theorem worklist_of_trial :
    twoSources.Admitted outlet ∧ besideRing.Admitted outlet ∧
    (∃ o, Ordering.Moment twoSources ["picture"] ["camera", "picture"] ["crossing"] o ∧
      o.Accounted twoSources ["picture"] ["camera", "picture"] ["crossing"]) ∧
    (∃ queued o, Ordering.Moment twoSources ["picture"] queued [] o ∧
      o.pending.lookup "crossing" = some 1) ∧
    (∃ k ≤ 4, (Ordering.run twoSources k (.start twoSources)).ready = []) ∧
    twoSources.walk [] "camera" = .ok "outlet" ∧
    twoSources.checkOrdered pictureFirst = .ok () ∧
    besideRing.check = .error .cycle := by
  have htwo : twoSources.Admitted outlet := by decide +kernel
  have hbeside : besideRing.Admitted outlet := by decide +kernel
  obtain ⟨haccounted, hends, ⟨hrun, -⟩, -, hall⟩ := worklist_of_admitted htwo
  obtain ⟨-, -, -, -, hleft⟩ := worklist_of_admitted hbeside
  -- the second source has been taken; the switch is still to be told, and then has been
  have hpicture : (Ordering.start twoSources).ready.Perm ("picture" :: ["camera"]) := by decide
  have htaken := Ordering.Moment.start.take hpicture
  obtain ⟨queued, htold⟩ := htaken.tellAll
  obtain ⟨hcounts, -⟩ := hall _ _ _ htold
  have hwaits : twoSources.waiting ["picture"] "crossing" = 1 := by decide +kernel
  obtain ⟨_, hfirst⟩ := Ordering.course_iff_moment.1 course_pictureFirst
  obtain ⟨-, hwalk, hcheck⟩ := hall _ _ _ hfirst
  obtain ⟨_, hring, -⟩ := course_ordering hbeside.wired
  obtain ⟨_, hring⟩ := Ordering.course_iff_moment.1 hring
  obtain ⟨-, -, hcycle⟩ := hleft _ _ _ hring
  have hplaced : pictureFirst.ordered = twoSources.stages.length := by decide +kernel
  have hover : besideRing.ordering.ordered ≠ besideRing.stages.length := by decide +kernel
  refine ⟨htwo, hbeside, ⟨_, htaken, haccounted _ _ _ _ htaken⟩, ⟨_, _, htold, ?_⟩, hends _ hrun,
    ?_, ?_, ?_⟩
  · rw [hcounts "crossing" (by decide), hwaits]
  · exact hwalk hplaced (.plain "camera" "identity" .source .live) (by decide)
  · rw [hcheck, if_pos hplaced]
    decide +kernel
  · rw [check, hcycle, if_neg hover]

end StandbyStream.Topology
