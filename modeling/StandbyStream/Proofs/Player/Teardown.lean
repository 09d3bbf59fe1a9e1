import StandbyStream.Proofs.Player.Interleaving
import StandbyStream.Proofs.Player.Stop
import StandbyStream.Proofs.Topology.Build

/-!
# What a stop in the middle of things leaves behind

The pipelines of the simulator answer by what they have been told before (`Simulator.Marks`), and of
this only the order of playing, ending the live input and halting matters (`marks_step`). So a
schedule of the threads of a live pipeline decides by the order of its actions what a stop leaves
behind (`Threads.stop_of_schedule`). Two orders do not leave what a stop is for
(`Threads.unclean_of_schedule`): nothing keeps the loop from telling a pipeline to play that has
already been halted, nor from pushing a frame that it has taken after the live input has been ended.
-/

namespace StandbyStream

open Act

/-! ## The simulator -/

namespace Simulator

/-- What decides how a pipeline of the simulator answers. -/
structure Marks where
  hasLive : Bool
  running : Bool
  failPlay : Bool
  playing : Bool
  halted : Bool
  ended : Bool
  refusal : Option FlowError
  deriving DecidableEq, Repr

/-- The marks of a pipeline. -/
def marks (rig : Rig Simulator SimPipeline) : Marks :=
  ⟨rig.pipeline.hasLive, rig.pipeline.running, rig.engine.failPlay, rig.engine.playing,
    rig.engine.halted, rig.engine.ended, rig.engine.refusal⟩

/-- The marks that a schedule leaves on a fresh live pipeline without faults. -/
def marksAfter (acts : List Act) : Marks :=
  { hasLive := true
    running := lastMove? acts == some (.loop .play)
    failPlay := false
    playing := lastMove? acts == some (.loop .play)
    halted := acts.contains (.stop .halt)
    ended := acts.contains (.stop .endStream)
    refusal := none }

/-- The actions that leave a mark. -/
def isMark (a : Act) : Bool :=
  a.isMove || a == .stop .endStream

variable {rig : Rig Simulator SimPipeline} {a : Act} {acts : List Act}

theorem marksAfter_concat (h : isMark a = false) : marksAfter (acts ++ [a]) = marksAfter acts := by
  simp only [isMark, Bool.or_eq_false_iff, beq_eq_false_iff_ne] at h
  obtain ⟨hmove, hend⟩ := h
  have hhalt : a ≠ .stop .halt := fun heq => by simp [heq, isMove] at hmove
  simp [marksAfter, lastMove?_concat, hmove, Ne.symm hend, Ne.symm hhalt]

theorem marksAfter_play : marksAfter (acts ++ [.loop .play]) =
    { marksAfter acts with running := true, playing := true } := by
  simp [marksAfter, lastMove?_concat, isMove]

theorem marksAfter_halt : marksAfter (acts ++ [.stop .halt]) =
    { marksAfter acts with running := false, playing := false, halted := true } := by
  simp [marksAfter, lastMove?_concat, isMove]

theorem marksAfter_endStream : marksAfter (acts ++ [.stop .endStream]) =
    { marksAfter acts with ended := true } := by
  simp [marksAfter, lastMove?_concat, isMove]

theorem marks_push {rig' : Rig Simulator SimPipeline} {buffer : Buffer}
    {answer : Except FlowError Unit} (h : push buffer rig = (answer, rig')) :
    marks rig' = marks rig := by
  rw [push] at h
  repeat' split at h
  all_goals
    cases h
    rfl

theorem marks_select {rig' : Rig Simulator SimPipeline} {input : Input}
    {answer : Except Plain Unit} (h : select input rig = (answer, rig')) :
    marks rig' = marks rig := by
  rw [select] at h
  split at h <;> cases h <;> rfl

theorem marks_raiseDemand {rig' : Rig Simulator SimPipeline} (h : raiseDemand? rig = some rig') :
    marks rig' = marks rig := by
  rw [raiseDemand?] at h
  split at h <;> cases h
  rfl

theorem marks_play (hfail : (marks rig).failPlay = false) (hrun : (marks rig).running = false) :
    (play rig).1 = .ok () ∧
      marks (play rig).2 = { marks rig with running := true, playing := true } := by
  have hfail : rig.engine.failPlay = false := hfail
  have hrun : rig.pipeline.running = false := hrun
  simp [play, hfail, hrun, marks]

theorem marks_endOfStream (hlive : (marks rig).hasLive = true)
    (hhalted : (marks rig).halted = false) (hended : (marks rig).ended = false) :
    marks (endOfStream rig).2.2 = { marks rig with ended := true } := by
  have hlive : rig.pipeline.hasLive = true := hlive
  have hhalted : rig.engine.halted = false := hhalted
  have hended : rig.engine.ended = false := hended
  simp [endOfStream, hlive, hhalted, hended, marks]

/-- A pipeline without faults takes a buffer exactly if it plays and its live input has not been
ended. -/
theorem push_eq_ok (hlive : (marks rig).hasLive = true) (hrefusal : (marks rig).refusal = none)
    (buffer : Buffer) :
    (push buffer rig).1 = .ok () ↔ (marks rig).playing = true ∧ (marks rig).ended = false := by
  have hlive : rig.pipeline.hasLive = true := hlive
  have hrefusal : rig.engine.refusal = none := hrefusal
  simp only [push, hlive, hrefusal, marks]
  cases rig.engine.playing <;> cases rig.engine.ended <;> simp

end Simulator

namespace Threads

variable {s s' : Threads Simulator SimPipeline} {a : Act} {acts : List Act}

open Simulator

/-- The pipeline is told to play while it does not run, and it obeys. -/
theorem marks_play_of (hmarks : marks s.deck.rig = marksAfter acts) (horder : InOrder acts s)
    (hl : s.loop = .play) :
    (MediaEngine.play s.deck.rig).1 = .ok () ∧
      marks (MediaEngine.play s.deck.rig).2 = marksAfter (acts ++ [.loop .play]) := by
  have hplay : .loop .play ∉ acts := fun hmem => horder.play.1 hmem hl
  rw [marksAfter_play, ← hmarks]
  apply marks_play
  · rw [hmarks]
    rfl
  · rw [hmarks]
    exact beq_eq_false_iff_ne.2 fun hlast => hplay (mem_of_lastMove? hlast).1

theorem marks_step (hmarks : marks s.deck.rig = marksAfter acts) (hlive : s.hasLive = true)
    (horder : InOrder acts s) (hstep : Step s a s') :
    marks s'.deck.rig = marksAfter (acts ++ [a]) := by
  cases hstep with
  | play hl h | refuseToPlay hl h =>
    rw [← (marks_play_of hmarks horder hl).2, h]
  | halt hs =>
    rw [marksAfter_halt, ← hmarks]
    rfl
  | endStream hs _ =>
    -- the stop has not come further yet
    have hfresh (point : StopPoint) (hrank : StopPoint.endStream.rank ≤ point.rank) :
        acts.contains (.stop point) = false := by
      rw [List.contains_eq_mem, decide_eq_false_iff_not, horder.stop, hs]
      exact Nat.not_lt.2 hrank
    rw [marksAfter_endStream, ← hmarks]
    apply marks_endOfStream
    · rw [hmarks]
      rfl
    · rw [hmarks]
      exact hfresh .halt (by decide)
    · rw [hmarks]
      exact hfresh .endStream (by decide)
  | nothingToEnd _ h =>
    rw [hlive] at h
    cases h
  | deliver _ h | refuse _ h =>
    rw [marksAfter_concat rfl, ← hmarks]
    exact marks_push h
  | failOver _ h | refuseToFailOver _ h =>
    rw [marksAfter_concat rfl, ← hmarks]
    exact marks_select h
  | demand h =>
    rw [marksAfter_concat rfl, ← hmarks]
    exact marks_raiseDemand h
  | _ => exact hmarks.trans (marksAfter_concat rfl).symm

/-- A pipeline that has begun to play takes a frame exactly if its live input has not been ended.
That it has been halted comes later. -/
theorem push_eq_ok_iff (hmarks : marks s.deck.rig = marksAfter acts) (horder : InOrder acts s)
    {frame : Frame} (hl : s.loop = .push frame) :
    (MediaEngine.push (s.feed.stamp frame) s.deck.rig).1 = .ok () ↔ .stop .endStream ∉ acts := by
  have hlive : (marks s.deck.rig).hasLive = true := by rw [hmarks]; rfl
  have hrefusal : (marks s.deck.rig).refusal = none := by rw [hmarks]; rfl
  refine (push_eq_ok hlive hrefusal _).trans ?_
  rw [hmarks]
  constructor
  · rintro ⟨-, hended⟩
    simpa [marksAfter] using hended
  · intro hend
    have hplay : .loop .play ∈ acts := horder.play.2 (by simp [hl])
    have hhalt : .stop .halt ∉ acts := by
      rw [horder.stop, Nat.not_lt] at hend ⊢
      exact Nat.le_trans hend (by decide)
    have hlast : lastMove? acts = some (.loop .play) :=
      (lastMove?_cases hplay).resolve_right fun hlast => hhalt (mem_of_lastMove? hlast).1
    exact ⟨beq_iff_eq.2 hlast, by simpa [marksAfter] using hend⟩

/-- There is no error among the events. -/
def Calm (events : List Event) : Prop :=
  ∀ event ∈ events, event.isError = false

theorem Calm.append {events events' : List Event} (h : Calm events) (h' : Calm events') :
    Calm (events ++ events') :=
  List.forall_mem_append.2 ⟨h, h'⟩

theorem calm_singleton {event : Event} (h : event.isError = false) : Calm [event] :=
  fun _ hm => List.mem_singleton.1 hm ▸ h

theorem calm_step (hcalm : Calm s.pending)
    (harrive : ∀ event, a = .arrive event → event.isError = false) (hstep : Step s a s') :
    Calm s'.pending := by
  cases hstep with
  | receive _ h =>
    rw [h] at hcalm
    exact (List.forall_mem_cons.1 hcalm).2
  | endStream _ _ => exact hcalm.append (Simulator.endsQuietly s.deck.rig)
  | wake _ => exact hcalm.append (calm_singleton rfl)
  | demand _ => exact hcalm.append (calm_singleton rfl)
  | arrive event => exact hcalm.append (calm_singleton (harrive event rfl))
  | _ => exact hcalm

theorem afterEvent_of_calm {event : Event} (h : event.isError = false) (feed : Feed) :
    afterEvent feed event ≠ .markError ∧ afterEvent feed event ≠ .failToPlay := by
  cases event with
  | needData =>
    rw [afterEvent]
    split <;> simp
  | error source message => cases h
  | _ => simp [afterEvent]

theorem lastMove_step (h : lastMove? acts = some (.stop .halt) ↔
      PlaysFirst acts ∨ .stop .halt ∈ acts ∧ .loop .play ∉ acts)
    (horder : InOrder acts s) (hstep : Step s a s') :
    lastMove? (acts ++ [a]) = some (.stop .halt) ↔
      PlaysFirst (acts ++ [a]) ∨ .stop .halt ∈ acts ++ [a] ∧ .loop .play ∉ acts ++ [a] := by
  rw [lastMove?_concat, PlaysFirst, precedes_concat, ← PlaysFirst]
  simp only [List.mem_append, List.mem_singleton, not_or]
  by_cases hplay : a = .loop .play
  · -- the first time
    subst hplay
    have hl : s.loop = .play := by
      cases hstep <;> assumption
    have hnot : ¬ PlaysFirst acts := fun hfirst => horder.play.1 hfirst.mem.1 hl
    simp [isMove, hnot]
  by_cases hhalt : a = .stop .halt
  · subst hhalt
    by_cases hmem : .loop .play ∈ acts <;> simp [isMove, hmem]
  · have hmove : a.isMove = false := by
      rw [isMove.eq_def]
      split <;> first | rfl | contradiction
    simp [hmove, h, Ne.symm hplay, Ne.symm hhalt]

theorem error_step (h : s.deck.status.errorDetected = true ∨ s.loop = .markError ↔ PushesLate acts)
    (hplayable : s.loop ≠ .failToPlay) (hcalm : Calm s.pending)
    (hmarks : marks s.deck.rig = marksAfter acts) (horder : InOrder acts s)
    (hstep : Step s a s') :
    (s'.deck.status.errorDetected = true ∨ s'.loop = .markError ↔ PushesLate (acts ++ [a])) := by
  rw [pushesLate_concat, ← h]
  cases hstep with
  | deliver hl hpush =>
    have hend : .stop .endStream ∉ acts :=
      (push_eq_ok_iff hmarks horder hl).1 (congrArg Prod.fst hpush)
    simp [hl, hend]
  | refuse hl hpush =>
    have hend : .stop .endStream ∈ acts := by
      apply Decidable.byContradiction
      intro hnot
      have hok := (push_eq_ok_iff hmarks horder hl).2 hnot
      rw [hpush] at hok
      cases hok
    simp [hl, hend]
  | receive hl hpending =>
    have hevent := afterEvent_of_calm (hcalm _ (hpending ▸ List.mem_cons_self)) s.feed
    simp [hl, hevent.1]
  | failToPlay hl => exact absurd hl hplayable
  | refuseToFailOver _ hselect =>
    -- the fallback is always there
    change Simulator.select .fallback s.deck.rig = _ at hselect
    simp [Simulator.select] at hselect
  | askQuit hl =>
    cases s.quit <;> simp [hl]
  | _ => simp [*]

theorem playable_step (hplayable : s.loop ≠ .failToPlay) (hcalm : Calm s.pending)
    (hmarks : marks s.deck.rig = marksAfter acts) (horder : InOrder acts s)
    (hstep : Step s a s') : s'.loop ≠ .failToPlay := by
  cases hstep with
  | refuseToPlay hl h =>
    have hok := (marks_play_of hmarks horder hl).1
    rw [h] at hok
    cases hok
  | receive _ hpending =>
    exact (afterEvent_of_calm (hcalm _ (hpending ▸ List.mem_cons_self)) s.feed).2
  | askQuit _ =>
    cases s.quit <;> simp
  | _ => first | exact hplayable | simp

/-- What a schedule from a live pipeline without faults has come to. -/
structure Follows (acts : List Act) (s : Threads Simulator SimPipeline) : Prop where
  order : InOrder acts s
  seen : Seen s
  hasLive : s.hasLive = true
  marks : marks s.deck.rig = marksAfter acts
  calm : Calm s.pending
  playable : s.loop ≠ .failToPlay
  error : s.deck.status.errorDetected = true ∨ s.loop = .markError ↔ PushesLate acts
  lastMove : lastMove? acts = some (.stop .halt) ↔
    PlaysFirst acts ∨ .stop .halt ∈ acts ∧ .loop .play ∉ acts

theorem Follows.step (h : Follows acts s)
    (harrive : ∀ event, a = .arrive event → event.isError = false) (hstep : Step s a s') :
    Follows (acts ++ [a]) s' := by
  constructor
  · exact h.order.step hstep
  · exact h.seen.step hstep
  · rw [hasLive_step hstep, h.hasLive]
  · exact marks_step h.marks h.hasLive h.order hstep
  · exact calm_step h.calm harrive hstep
  · exact playable_step h.playable h.calm h.marks h.order hstep
  · exact error_step h.error h.playable h.calm h.marks h.order hstep
  · exact lastMove_step h.lastMove h.order hstep

/-- Threads that are about to begin, on a live pipeline without faults. -/
structure Fresh (s : Threads Simulator SimPipeline) : Prop where
  loop : s.loop = .play
  stop : s.stop = .markStopping
  hasLive : s.hasLive = true
  marks : marks s.deck.rig = marksAfter []
  calm : Calm s.pending
  error : s.deck.status.errorDetected = false

theorem Fresh.follows (h : Fresh s) : Follows [] s where
  order := ⟨fun _ => by simp [h.stop, StopPoint.rank], by simp [h.loop]⟩
  seen := by constructor <;> simp [h.stop, StopPoint.rank]
  hasLive := h.hasLive
  marks := h.marks
  calm := h.calm
  playable := by simp [h.loop]
  error := by
    have hnot : ¬ PushesLate [] := by
      rintro ⟨frame, hlate⟩
      exact List.not_mem_nil hlate.mem.1
    simp [h.error, h.loop, hnot]
  lastMove := by
    have hnot : ¬ PlaysFirst [] := fun hfirst => List.not_mem_nil hfirst.mem.1
    simp [lastMove?, hnot]

/-- Every schedule from fresh threads keeps to what a schedule can come to. -/
theorem Fresh.run (h : Fresh s) (harrive : ∀ event, .arrive event ∈ acts → event.isError = false)
    (hrun : s.run acts = some s') : Follows acts s' := by
  have hall : (∀ event, .arrive event ∈ acts → event.isError = false) → Follows acts s' := by
    refine run_induction (C := fun acts t =>
      (∀ event, .arrive event ∈ acts → event.isError = false) → Follows acts t) ?_
      (fun _ => h.follows) hrun
    intro acts a t t' ht hstep harrive
    have hbefore : Follows acts t := ht fun event hm => harrive event (List.mem_append_left _ hm)
    refine hbefore.step (fun event ha => harrive event ?_) hstep
    simp [ha]
  exact hall harrive

/-- A live pipeline of a simulator without faults, just built, with whatever frames are queued and
whatever events but errors are under way. -/
theorem fresh_of_build {p built : Player Simulator SimPipeline} {request : BuildRequest}
    {held : Held SimPipeline} (hplay : p.engine.failPlay = false)
    (hpush : p.engine.pushFault = none) (hmode : request.mode = .live)
    (hbuild : p.build request = (.ok (), built)) (hheld : built.held = some held)
    {queue : FrameQueue} {pending : List Event} (hcalm : Calm pending) :
    Fresh (begin { built with queue } { held with pending }) := by
  have hend := Player.build_end p request
  rw [hbuild] at hend
  cases hend with
  | @built t pipeline engine _ ht hi =>
    cases hheld
    have hlive : t.liveSource?.isSome = true := by
      rw [Topology.liveSource_of_build ht, Topology.mode_of_build ht, hmode]
      rfl
    change Simulator.instantiate t p.engine = _ at hi
    rw [Simulator.instantiate] at hi
    split at hi <;> cases hi
    refine ⟨rfl, rfl, hlive, ?_, hcalm, rfl⟩
    simp [marks, marksAfter, begin, ofHeld, Player.afterBuild, hlive, hplay, hpush, lastMove?]

/-- A live pipeline without faults is stopped while its loop is at whatever it is at, with whatever
frames queued and handed in and whatever demands under way. The stop can always come to its end,
and sixteen more actions of the two threads are enough. Then the state is `stopped` and the stream
is not marked as playing. But an error is marked exactly if the loop has pushed a frame after the
end of the live input, since such a frame is refused; and the pipeline has been halted for good
exactly if the loop had told it to play before. Otherwise the simulator goes on to mark it as
playing, although the pipeline itself is given up with the loop. -/
theorem stop_of_schedule {p built : Player Simulator SimPipeline} {request : BuildRequest}
    {held : Held SimPipeline} (hplay : p.engine.failPlay = false)
    (hpush : p.engine.pushFault = none) (hmode : request.mode = .live)
    (hbuild : p.build request = (.ok (), built)) (hheld : built.held = some held)
    {queue : FrameQueue} {pending : List Event} (hcalm : Calm pending)
    (harrive : ∀ event, .arrive event ∈ acts → event.isError = false)
    (hrun : (begin { built with queue } { held with pending }).run acts = some s) :
    (∃ rest s', rest.length ≤ 16 ∧ s.run rest = some s' ∧ s'.stop = .returned) ∧
    (s.stop = .returned →
      s.state = .stopped ∧ s.deck.status.playing = false ∧
      (s.deck.status.errorDetected = true ↔ PushesLate acts) ∧
      (lastMove? acts = some (.stop .halt) ↔ PlaysFirst acts) ∧
      (s.deck.rig.engine.playing = true ↔ ¬ PlaysFirst acts)) := by
  have h : Follows acts s := (fresh_of_build hplay hpush hmode hbuild hheld hcalm).run harrive hrun
  constructor
  · obtain ⟨rest, s', hlength, hrest, hend⟩ := h.seen.exists_run
    exact ⟨rest, s', Nat.le_trans hlength s.left_le, hrest, hend⟩
  · intro hreturned
    -- all that the stop does is behind it, and the loop has ended
    have hrank : s.stop.rank = StopPoint.returned.rank := congrArg _ hreturned
    have hloop : s.loop = .ended := h.seen.joined (by rw [hrank]; decide)
    have hplayed : .loop .play ∈ acts := h.order.play.2 (by simp [hloop])
    have hlast : lastMove? acts = some (.stop .halt) ↔ PlaysFirst acts := by
      simpa [hplayed] using h.lastMove
    have herror := h.error
    simp only [hloop, reduceCtorEq, or_false] at herror
    refine ⟨h.seen.stopped (by rw [hrank]; decide), h.seen.lowered (by rw [hrank]; decide), herror,
      hlast, ?_⟩
    have hplaying : s.deck.rig.engine.playing = (lastMove? acts == some (.loop .play)) :=
      congrArg Marks.playing h.marks
    rw [hplaying, beq_iff_eq, ← hlast]
    rcases lastMove?_cases hplayed with hmove | hmove <;> simp [hmove]

/-! ### Three schedules -/

/-- A live stream to this machine. -/
def trialRequest : BuildRequest :=
  ⟨.live, .h264, 640, 480, 25, 1000, "udp://127.0.0.1:5600", false⟩

/-- A simulator without faults for which that stream has been built. -/
def trialBuilt : Player Simulator SimPipeline :=
  ((Player.new .flawless ⟨2000, 4⟩).build trialRequest).2

/-- The frame that is queued. -/
def trialFrame : Frame :=
  ⟨1, [10]⟩

/-- The threads of that stream, with a frame queued and a demand under way. -/
def trialThreads : Option (Threads Simulator SimPipeline) :=
  trialBuilt.held.map fun held =>
    begin { trialBuilt with queue := (trialBuilt.queue.push trialFrame).2 }
      { held with pending := [.needData] }

/-- A stop up to the point where it tells the loop to end. -/
def shutOff : List Act :=
  [.stop .markStopping, .stop .disconnect, .stop .endStream, .stop .halt]

/-- The loop is told to end. -/
def sendAway : List Act :=
  [.stop .setQuit, .stop .closeQueue, .stop .wake]

/-- A loop that begins. -/
def setOut : List Act :=
  [.loop .play, .loop .raiseFlag, .loop .enter, .loop .askQuit]

/-- The loop has ended, and the stop comes to its end. -/
def partWays : List Act :=
  [.loop .lowerFlag, .loop .leave, .stop .join, .stop .lowerFlag, .stop .markStopped]

/-- A frame is delivered before the stop begins. -/
def stopAtRest : List Act :=
  setOut ++ [.loop .receive, .loop .pop, .loop (.push trialFrame), .loop .askQuit] ++ shutOff ++
    [.loop .receive] ++ sendAway ++ partWays

/-- The stop is quicker than the loop that has just been started. -/
def stopBeforePlay : List Act :=
  shutOff ++ [.loop .play] ++ sendAway ++ [.loop .raiseFlag, .loop .enter, .loop .askQuit] ++
    partWays

/-- The stop comes between taking a frame and pushing it. -/
def stopBeforePush : List Act :=
  setOut ++ [.loop .receive, .loop .pop] ++ shutOff ++
    [.loop (.push trialFrame), .loop .markError] ++ sendAway ++ partWays

/-- Stopped at rest the stream of the trial leaves no error, and its pipeline halted. -/
theorem stop_of_schedule_at_rest :
    ∃ s, trialThreads.bind (·.run stopAtRest) = some s ∧ s.stop = .returned ∧ s.state = .stopped ∧
      s.deck.status.playing = false ∧ s.deck.status.errorDetected = false ∧
      lastMove? stopAtRest = some (.stop .halt) ∧ s.deck.rig.engine.playing = false := by
  have hreturned : (trialThreads.bind (·.run stopAtRest)).map (·.stop) = some .returned := by
    decide +kernel
  obtain ⟨s, hs, hstop⟩ := Option.map_eq_some_iff.1 hreturned
  obtain ⟨threads, hthreads, hrun⟩ := Option.bind_eq_some_iff.1 hs
  obtain ⟨held, hheld, rfl⟩ := Option.map_eq_some_iff.1 hthreads
  have hbuild : (Player.new .flawless ⟨2000, 4⟩).build trialRequest = (.ok (), trialBuilt) := by
    rfl
  have hcalm : Calm [.needData] := calm_singleton rfl
  have harrive (event : Event) (hm : .arrive event ∈ stopAtRest) : event.isError = false := by
    simp [stopAtRest, setOut, shutOff, sendAway, partWays] at hm
  obtain ⟨-, hend⟩ := stop_of_schedule rfl rfl rfl hbuild hheld hcalm harrive hrun
  obtain ⟨hstate, hflag, herror, hmove, hplaying⟩ := hend hstop
  have hfirst : PlaysFirst stopAtRest := by decide
  have hlate : ¬ PushesLate stopAtRest := by
    rintro ⟨frame, hlate⟩
    have hframe : frame = trialFrame := by
      have hm := hlate.mem.2
      simpa [stopAtRest, setOut, shutOff, sendAway, partWays] using hm
    rw [hframe] at hlate
    exact absurd hlate (by decide)
  refine ⟨s, hs, hstop, hstate, hflag, ?_, hmove.2 hfirst, ?_⟩
  · exact Bool.eq_false_iff.2 fun hmarked => hlate (herror.1 hmarked)
  · exact Bool.eq_false_iff.2 fun hplays => hplaying.1 hplays hfirst

/-- A stop that is quicker than the loop leaves the pipeline playing, and one that comes between a
frame and its push leaves an error. -/
theorem unclean_of_schedule :
    ((trialThreads.bind (·.run stopBeforePlay)).map fun s =>
        (s.stop, s.state, s.deck.status.errorDetected, s.deck.rig.engine.playing)) =
        some (.returned, .stopped, false, true) ∧
      lastMove? stopBeforePlay = some (.loop .play) ∧
      ((trialThreads.bind (·.run stopBeforePush)).map fun s =>
        (s.stop, s.state, s.deck.status.errorDetected, s.deck.rig.engine.playing)) =
        some (.returned, .stopped, true, false) := by
  decide +kernel

end Threads

end StandbyStream
