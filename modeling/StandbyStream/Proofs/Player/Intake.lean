import StandbyStream.Engine.Simulator
import StandbyStream.Proofs.Player.Supply

/-!
# Frames that come in

At rest nothing is left to do for a loop until something happens (`Loop.AtRest`), provided that its
pipeline waits for an answer to each demand that it raises (`RaisesInTurn`). So a frame that comes
in changes the queue and nothing else (`Player.submit_of_no_wait`), unless a pull has been waiting
for it. Then the frame goes through the queue to the live source, in one call that is the only one,
and the events that have been waiting behind the pull are heard (`Player.submit_of_wait`,
`Player.log_submit_of_wait`).
-/

namespace StandbyStream

variable {ρ π : Type} [MediaEngine ρ π]

/-! ## Engines that raise demands in turn -/

/-- The pipelines of an engine raise no demand before the last one is answered, and putting the
fallback on air does not make them raise one. -/
structure RaisesInTurn (ρ : Type) {π : Type} [MediaEngine ρ π] : Prop where
  raised : ∀ {rig rig' : Rig ρ π}, MediaEngine.raiseDemand? rig = some rig' →
    MediaEngine.raiseDemand? rig' = none
  switched : ∀ {rig rig' : Rig ρ π}, MediaEngine.raiseDemand? rig = none →
    MediaEngine.select .fallback rig = (.ok (), rig') → MediaEngine.raiseDemand? rig' = none

theorem Unprompted.raisesInTurn (h : Unprompted ρ) : RaisesInTurn ρ :=
  ⟨fun _ => h _, fun _ _ => h _⟩

theorem Simulator.raisesInTurn : RaisesInTurn Simulator where
  raised := by
    intro rig rig' h
    change Simulator.raiseDemand? rig = some rig' at h
    rw [raiseDemand?] at h
    split at h <;> cases h
    change Simulator.raiseDemand? _ = none
    simp [raiseDemand?, demandDue]
  switched := by
    intro rig rig' _ h
    change Simulator.select .fallback rig = _ at h
    rw [select, if_neg nofun] at h
    cases h
    change Simulator.raiseDemand? _ = none
    simp [raiseDemand?, demandDue]

/-- An engine on a tape raises what it raises off it. -/
theorem RaisesInTurn.onTape (h : RaisesInTurn ρ) : RaisesInTurn (Tape ρ) where
  raised := by
    intro rig rig' hr
    obtain ⟨untaped, hu, rfl⟩ := Option.map_eq_some_iff.1 hr
    have hnone : MediaEngine.raiseDemand? untaped = none := h.raised hu
    exact congrArg (Option.map _) hnone
  switched := by
    intro rig rig' hr hs
    have hnone : MediaEngine.raiseDemand? rig.untaped = none := Option.map_eq_none_iff.1 hr
    rcases hselect : MediaEngine.select .fallback rig.untaped with ⟨answer, untaped⟩
    have htaped : MediaEngine.select .fallback rig =
        ((MediaEngine.select .fallback rig.untaped).1,
          rig.afterCall (.select .fallback) (MediaEngine.select .fallback rig.untaped).1.isOk
            (MediaEngine.select .fallback rig.untaped).2) := rfl
    rw [hselect] at htaped
    rw [htaped] at hs
    cases hs
    exact congrArg (Option.map _) (h.switched hnone hselect)

/-! ## Loops at rest -/

namespace Loop

variable {l l' : Loop ρ π}

/-- A loop that listens has served the demand of its pipeline. -/
def Sated (l : Loop ρ π) : Prop :=
  l.phase = .listening → MediaEngine.raiseDemand? l.deck.rig = none

/-- Nothing is left to do until something happens: no event to handle, unless a pull waits, no
demand to serve, and nothing for a pull that waits to go on with. -/
structure AtRest (l : Loop ρ π) : Prop where
  caughtUp : l.CaughtUp
  sated : l.Sated
  still : l.Still

/-! ### Pulls that wait -/

theorem still_proceed {events : List Event} (h : l.Still)
    (hall : l.phase = .listening → (l.handleAll events).Still) : (l.proceed events).Still := by
  cases on : l.phase with
  | ended =>
    rw [proceed_of_ended on]
    exact h
  | pulling =>
    rw [proceed_of_pulling on, ← leave_of_on (by simp [on])]
    exact h.leave events
  | listening =>
    rw [proceed_of_listening on]
    split
    · exact still_of_phase nofun
    · exact hall on

theorem still_handleAll (on : l.phase = .listening) (events : List Event) :
    (l.handleAll events).Still := by
  induction events generalizing l with
  | nil => exact still_of_phase (by simp [handleAll, on])
  | cons event rest ih =>
    rw [handleAll_cons]
    exact still_proceed (still_handle on event) ih

theorem still_heed (l : Loop ρ π) : l.heed.Still := by
  cases on : l.phase with
  | ended =>
    rw [heed_of_ended on]
    exact still_of_phase (by simp [on])
  | listening =>
    rw [heed_of_listening on]
    exact still_handleAll on _
  | pulling =>
    rw [heed_of_pulling on]
    exact still_proceed (still_pull l) fun on' => still_handleAll on' _

theorem still_serveDemand (count : Nat) (h : l.Still) : (l.serveDemand count).Still := by
  induction count generalizing l with
  | zero => exact h
  | succ count ih =>
    rw [serveDemand.eq_def]
    simp only
    split
    · exact ih (still_pull _)
    · exact h

/-! ### Demands that are served -/

/-- A step after which the pipeline might raise another demand has taken a frame off the queue. -/
theorem Step.sated_or_lt (h : Step l l') (hturn : RaisesInTurn ρ)
    (hnone : MediaEngine.raiseDemand? l.deck.rig = none) :
    l'.Sated ∨ l'.deck.queue.size < l.deck.queue.size := by
  cases h with
  | idle | handled => exact .inl fun _ => hnone
  | delivered _ _ _ hq _ =>
    right
    rw [FrameQueue.size, FrameQueue.size, hq]
    exact Nat.lt_succ_self _
  | switched _ _ _ _ _ hselect => exact .inl fun _ => hturn.switched hnone hselect
  | demanded _ hd =>
    rw [hnone] at hd
    cases hd
  | _ =>
    left
    intro on
    cases on

/-- One demand more than there are frames is enough to serve all. -/
theorem sated_serveDemand (hturn : RaisesInTurn ρ) (count : Nat)
    (h : l.Sated ∨ l.deck.queue.size < count) : (l.serveDemand count).Sated := by
  induction count generalizing l with
  | zero => exact h.resolve_right (Nat.not_lt_zero _)
  | succ count ih =>
    rw [serveDemand.eq_def]
    simp only
    split
    · next rig on hd =>
      have hlt : l.deck.queue.size < count + 1 :=
        h.resolve_left fun hs => absurd ((hs on).symm.trans hd) nofun
      have hstep := pull_step { l with deck := { l.deck with rig } } (by simp [on])
      apply ih
      exact (hstep.sated_or_lt hturn (hturn.raised hd)).imp_right fun hless =>
        Nat.lt_of_lt_of_le hless (Nat.le_of_lt_succ hlt)
    · next hnone =>
      intro on
      cases hd : MediaEngine.raiseDemand? l.deck.rig with
      | none => rfl
      | some rig => exact absurd hd (hnone rig on)

theorem atRest_settle (hturn : RaisesInTurn ρ) (h : l.Tidy) : l.settle.AtRest where
  caughtUp := caughtUp_settle h
  sated := by
    rw [settle_eq]
    exact sated_serveDemand hturn _ (.inr (Nat.lt_succ_self _))
  still := by
    rw [settle_eq]
    exact still_serveDemand _ (still_heed l)

/-- Nothing happens to a loop at rest. -/
theorem AtRest.settle_eq (h : l.AtRest) : l.settle = l := by
  cases on : l.phase with
  | ended => exact settle_of_ended on
  | pulling => exact settle_of_still on h.still
  | listening =>
    have hpending : l.pending = [] := h.caughtUp (by simp [on])
    have hheed : l.heed = l := by
      rw [heed_of_listening on, hpending, handleAll, ← hpending]
    rw [Loop.settle_eq, hheed, serveDemand.eq_def, on]
    simp only [h.sated on]

/-- The live input is on air, the queue is open and empty, and a pull may wait for a frame. -/
structure Awaits (l : Loop ρ π) : Prop where
  live : ¬ l.feed.Idle
  queueOpen : l.deck.queue.closed = false
  empty : l.deck.queue.frames = []
  patient : l.patience = .lasting

/-- Only then a pull waits. -/
theorem awaits_of_pull (h : l.pull.phase = .pulling) : l.Awaits := by
  have live : ¬ l.feed.Idle := by
    intro idle
    rw [pull_of_idle idle] at h
    cases h
  have hopen : l.deck.queue.closed = false := by
    rw [Bool.eq_false_iff]
    intro hclosed
    rw [pull_of_closed live hclosed] at h
    cases h
  have hq : l.deck.queue.frames = [] := by
    cases hframes : l.deck.queue.frames with
    | nil => rfl
    | cons frame rest =>
      rw [pull_of_frame live hopen hframes] at h
      split at h <;> cases h
  refine ⟨live, hopen, hq, ?_⟩
  cases hp : l.patience with
  | lasting => rfl
  | brief =>
    rw [pull_of_late live hopen hq hp] at h
    split at h <;> cases h

theorem Still.awaits (h : l.Still) (on : l.phase = .pulling) : l.Awaits :=
  awaits_of_pull (by rw [h on, on])

/-- How long a pull might wait does not matter to a loop in which none waits. -/
theorem AtRest.withPatience (h : l.AtRest) (hp : l.phase ≠ .pulling) (patience : Patience) :
    ({ l with patience } : Loop ρ π).AtRest :=
  ⟨h.caughtUp, h.sated, still_of_phase hp⟩

/-! ### Frames for which a pull waits -/

/-- The loop with another queue. -/
def withQueue (l : Loop ρ π) (queue : FrameQueue) : Loop ρ π :=
  { l with deck := { l.deck with queue } }

/-- The loop once a frame has gone through its queue to the live source. Events that waited are left
out. -/
def delivered (l : Loop ρ π) (frame : Frame) : Loop ρ π :=
  let queue := { (l.deck.queue.push frame).2 with frames := [] }
  match MediaEngine.push (l.feed.stamp frame) l.deck.rig with
  | (.ok (), rig) =>
    { l with
      feed := { l.feed.timedFrom frame with delivered := l.feed.delivered + 1 }
      deck := { l.deck with queue, rig }
      pending := []
      phase := .listening }
  | (.error _, rig) =>
    ({ l with feed := l.feed.timedFrom frame, deck := { l.deck with queue, rig } }).finish true

/-- The frame is delivered by the pull that waits, and the events behind it follow. -/
theorem Awaits.settle_withQueue (h : l.Awaits) (on : l.phase = .pulling) (hquit : l.quit = false)
    (frame : Frame) :
    (l.withQueue (l.deck.queue.push frame).2).settle =
      ((l.delivered frame).enqueue l.pending).settle := by
  let alone : Loop ρ π := { l.withQueue (l.deck.queue.push frame).2 with pending := [] }
  have on' : alone.phase = .pulling := on
  have hfirst : alone.heed = l.delivered frame := by
    have hopen : alone.deck.queue.closed = false :=
      (l.deck.queue.closed_push frame).trans h.queueOpen
    have hq : alone.deck.queue.frames = [frame] :=
      FrameQueue.frames_push_of_empty h.queueOpen h.empty frame
    have live : ¬ alone.feed.Idle := h.live
    have hpull := pull_of_frame live hopen hq
    rw [heed_of_pulling on', delivered]
    rcases hpush : MediaEngine.push (l.feed.stamp frame) l.deck.rig with ⟨fault | _, rig⟩
    · have hpush' : MediaEngine.push (alone.feed.stamp frame) alone.deck.rig =
          (.error fault, rig) := hpush
      rw [hpush'] at hpull
      rw [hpull, proceed_of_ended rfl]
      rfl
    · have hpush' : MediaEngine.push (alone.feed.stamp frame) alone.deck.rig = (.ok (), rig) :=
        hpush
      rw [hpush'] at hpull
      have on : ¬ alone.quit = true := by simp [alone, withQueue, hquit]
      rw [hpull, proceed_of_listening rfl, if_neg on]
      rfl
  have hne : alone.phase ≠ .ended := by simp [on']
  have hqueued : l.withQueue (l.deck.queue.push frame).2 = alone.enqueue l.pending :=
    (enqueue_of_on hne l.pending).symm
  rw [hqueued, Loop.settle_eq, heed_enqueue, hfirst, ← Loop.settle_eq]

theorem delivered_frame (l : Loop ρ π) (frame : Frame) :
    (l.delivered frame).patience = l.patience ∧ (l.delivered frame).quit = l.quit ∧
      (l.delivered frame).deck.queue = { (l.deck.queue.push frame).2 with frames := [] } := by
  rw [delivered]
  simp only
  split <;> exact ⟨rfl, rfl, rfl⟩

/-- A loop that listens and may wait for a frame goes on waiting for a demand, or for a frame if its
pipeline raises one at once. -/
theorem Awaits.settle_of_listening (h : l.Awaits) (on : l.phase = .listening)
    (hp : l.pending = []) :
    l.settle = l ∨ ∃ rig, MediaEngine.raiseDemand? l.deck.rig = some rig ∧
      l.settle = { l with deck := { l.deck with rig }, phase := .pulling } := by
  have hheed : l.heed = l := by
    rw [heed_of_listening on, hp, handleAll, ← hp]
  have hsize : l.deck.queue.size = 0 := by rw [FrameQueue.size, h.empty, List.length_nil]
  rw [Loop.settle_eq, hheed, hsize, serveDemand.eq_def, on]
  cases hd : MediaEngine.raiseDemand? l.deck.rig with
  | none => exact .inl rfl
  | some rig =>
    refine .inr ⟨rig, rfl, ?_⟩
    have hraised : ({ l with deck := { l.deck with rig } } : Loop ρ π).pull = _ :=
      pull_of_patient h.live h.queueOpen h.empty h.patient
    simp only [serveDemand]
    exact hraised

/-- When the live source has taken the frame, the loop may wait for the next one. -/
theorem Awaits.delivered (h : l.Awaits) (frame : Frame)
    (hok : (MediaEngine.push (l.feed.stamp frame) l.deck.rig).1 = .ok ()) :
    (l.delivered frame).Awaits ∧ (l.delivered frame).phase = .listening ∧
      (l.delivered frame).pending = [] := by
  rw [Loop.delivered]
  rcases hpush : MediaEngine.push (l.feed.stamp frame) l.deck.rig with ⟨fault | _, rig⟩
  · rw [hpush] at hok
    cases hok
  · exact ⟨⟨h.live, (l.deck.queue.closed_push frame).trans h.queueOpen, rfl, h.patient⟩, rfl, rfl⟩

theorem phase_delivered_of_refused {frame : Frame}
    (h : (MediaEngine.push (l.feed.stamp frame) l.deck.rig).1 ≠ .ok ()) :
    (l.delivered frame).phase = .ended := by
  rw [Loop.delivered]
  rcases hpush : MediaEngine.push (l.feed.stamp frame) l.deck.rig with ⟨fault | _, rig⟩
  · rfl
  · rw [hpush] at h
    exact absurd rfl h

/-- As long as pulls find no frame and wait for one, the pipeline is not called. -/
theorem Step.told_of_empty {l l' : Loop (Tape ρ) (Taped π)} (h : Step l l')
    (hq : l.deck.queue.frames = []) (hp : l.patience = .lasting) :
    l.deck.rig.Told l'.deck.rig [] ∧ l'.deck.queue = l.deck.queue := by
  cases h with
  | delivered _ _ _ hframes _ | refused _ _ _ hframes _ =>
    rw [hq] at hframes
    cases hframes
  | switched _ _ _ _ hbrief _ | stuck _ _ _ _ hbrief _ =>
    rw [hp] at hbrief
    cases hbrief
  | demanded _ hd => exact ⟨Rig.told_of_raiseDemand hd, rfl⟩
  | _ => exact ⟨.refl _, rfl⟩

theorem Steps.told_of_empty {l l' : Loop (Tape ρ) (Taped π)} (h : Steps l l')
    (hq : l.deck.queue.frames = []) (hp : l.patience = .lasting) :
    l.deck.rig.Told l'.deck.rig [] ∧ l'.deck.queue = l.deck.queue := by
  induction h with
  | refl => exact ⟨.refl _, rfl⟩
  | @tail m m' hsteps hstep ih =>
    obtain ⟨htold, hqueue⟩ := ih
    have hpatience : m.patience = .lasting := (Steps.frame hsteps).1.trans hp
    obtain ⟨htold', hqueue'⟩ := hstep.told_of_empty (by rw [hqueue, hq]) hpatience
    exact ⟨htold.trans htold', hqueue'.trans hqueue⟩

/-- The delivery is one call, and none follows it. -/
theorem Awaits.told_of_delivered {l : Loop (Tape ρ) (Taped π)} (h : l.Awaits) (frame : Frame)
    (events : List Event) :
    l.deck.rig.Told ((l.delivered frame).enqueue events).settle.deck.rig
        [(.push (l.feed.stamp frame),
          (MediaEngine.push (l.feed.stamp frame) l.deck.rig).1.isOk)] ∧
      ((l.delivered frame).enqueue events).settle.deck.queue =
        { (l.deck.queue.push frame).2 with frames := [] } := by
  obtain ⟨hpatience, -, hqueue⟩ := l.delivered_frame frame
  have hdeck : ((l.delivered frame).enqueue events).deck = (l.delivered frame).deck := by
    rw [enqueue, leave]
    split <;> rfl
  have hpush : l.deck.rig.Told ((l.delivered frame).enqueue events).deck.rig
      [(.push (l.feed.stamp frame),
        (MediaEngine.push (l.feed.stamp frame) l.deck.rig).1.isOk)] := by
    rw [hdeck, Loop.delivered]
    rcases hpush : MediaEngine.push (l.feed.stamp frame) l.deck.rig with ⟨fault | _, rig⟩
    · exact Rig.told_of_push hpush
    · exact Rig.told_of_push hpush
  have hq : ((l.delivered frame).enqueue events).deck.queue.frames = [] := by rw [hdeck, hqueue]
  have hp : ((l.delivered frame).enqueue events).patience = .lasting :=
    (enqueue_frame _ _).1.trans (hpatience.trans h.patient)
  obtain ⟨htold, hkept⟩ := (settle_steps _).told_of_empty hq hp
  refine ⟨hpush.trans htold, ?_⟩
  rw [hkept, hdeck, hqueue]

end Loop

/-! ## Players at rest -/

namespace Player

/-- The loop of the held pipeline, if it has been started, is at rest. -/
def AtRest (p : Player ρ π) : Prop :=
  ∀ held running, p.held = some held → held.running = some running →
    (p.loop held running).AtRest

/-- A loop that has ended has nothing left to handle. -/
def Tidy (p : Player ρ π) : Prop :=
  ∀ held running, p.held = some held → held.running = some running →
    (p.loop held running).Tidy

/-- A pipeline that is held has not been given up: its loop is not told to quit. -/
def Unasked (p : Player ρ π) : Prop :=
  p.held ≠ none → p.quit = false

variable {p p' : Player ρ π} {held : Held π} {running : Running}

/-! ### What a turn does to the loop -/

/-- What a turn does to the loop of a player. -/
inductive Rested (p : Player ρ π) : Player ρ π → Prop
  /-- It leaves the loop alone. -/
  | untouched : Rested p p
  /-- There is no loop, or no longer. -/
  | unstarted {p' : Player ρ π} (h : p'.isStarted = false) : Rested p p'
  /-- It runs the loop to rest. -/
  | settled {q : Player ρ π} (tidy : q.Tidy) : Rested p q.settle
  /-- It runs the loop to rest in a time in which no pull waits. -/
  | hurried {q : Player ρ π} (tidy : q.Tidy) (late : q.patience = .brief) (patience : Patience) :
      Rested p { q.settle with patience }

theorem rested_take (h : p.CaughtUp) (turn : Turn ρ) : Rested p (p.take turn) := by
  have htidy : p.Tidy := fun _ _ hh hr => h.tidy hh hr
  cases turn with
  | expiry =>
    rw [take, expire]
    split
    · exact .hurried (q := { p with patience := .brief }) htidy rfl p.patience
    · exact .untouched
  | action a =>
    cases a with
    | build request =>
      have hend := build_end p request
      rw [take, act]
      generalize p.build request = result at hend
      cases hend with
      | refused => exact .untouched
      | failed => exact .unstarted (isStarted_of_held_none rfl)
      | built => exact .unstarted (isStarted_of_unstarted rfl rfl)
    | start =>
      have hend := p.start_end
      rw [take, act]
      generalize p.start = result at hend
      cases hend with
      | refused => exact .untouched
      | @begun held =>
        have htidy : (p.withLoop held (p.firstLoop held)).Tidy := by
          rintro _ _ ⟨⟩ ⟨⟩
          exact Loop.tidy_begin (p.unbegun held)
        exact .settled htidy
    | stop => exact .unstarted (isStarted_of_held_none p.held_stop)
    | submit frame => exact .settled (q := p.supplied frame) htidy
    | alter change => exact .settled (q := { p with engine := change p.engine }) htidy
    | post event =>
      rw [take, act, post.eq_def]
      split
      · exact .untouched
      next held hh =>
      split
      · exact .untouched
      next hn =>
      have htidy : ({ p with
          held := some { held with pending := held.pending ++ [event] } } : Player ρ π).Tidy := by
        rintro _ running ⟨⟩ hr off
        -- nothing is posted to a loop that has ended
        have hended : p.loopEnded = true := by
          rw [loopEnded_of_running hh hr]
          exact beq_iff_eq.2 off
        exact absurd hended hn
      exact .settled htidy

namespace AtRest

theorem of_unstarted (h : p.isStarted = false) : p.AtRest := by
  intro held running hh hr
  rw [isStarted_of_running hh hr] at h
  cases h

theorem settle (hturn : RaisesInTurn ρ) (h : p.Tidy) : p.settle.AtRest := by
  cases hs : p.isStarted with
  | false =>
    apply of_unstarted
    exact (isStarted_mapLoop p Loop.settle).trans hs
  | true =>
    obtain ⟨held, running, hh, hr⟩ := exists_of_isStarted hs
    obtain ⟨hpatience, hquit, -⟩ := (Loop.settle_steps (p.loop held running)).frame
    rw [settle_of_running hh hr]
    rintro _ _ ⟨⟩ ⟨⟩
    have hl : (p.withLoop held (p.loop held running).settle).loop
        (heldAt held (p.loop held running).settle) _ = (p.loop held running).settle :=
      loop_withLoop hpatience hquit
    rw [heldAt] at hl
    rw [hl]
    exact Loop.atRest_settle hturn (h held running hh hr)

/-- A player whose pulls do not wait is at rest however long they might wait from now on. -/
theorem withPatience (h : p.AtRest) (late : p.patience = .brief) (patience : Patience) :
    ({ p with patience } : Player ρ π).AtRest := by
  intro held running hh hr
  have hl : (p.loop held running).AtRest := h held running hh hr
  refine hl.withPatience (fun on => ?_) patience
  have hlasting : p.patience = .lasting := (hl.still.awaits on).patient
  rw [late] at hlasting
  cases hlasting

theorem take (hturn : RaisesInTurn ρ) (h : p.AtRest) (turn : Turn ρ) : (p.take turn).AtRest := by
  have hcaught : p.CaughtUp := fun held running hh hr => (h held running hh hr).caughtUp
  have hrested := rested_take hcaught turn
  generalize p.take turn = p' at hrested
  cases hrested with
  | untouched => exact h
  | unstarted hs => exact of_unstarted hs
  | settled tidy => exact settle hturn tidy
  | @hurried q tidy late patience =>
    have hpatience : q.settle.patience = .brief := by
      rcases q.settle_cases with hs | ⟨held, running, hh, hr⟩
      · rw [hs, late]
      · rw [settle_of_running hh hr]
        exact late
    exact (settle hturn tidy).withPatience hpatience patience

theorem after (hturn : RaisesInTurn ρ) (h : p.AtRest) (turns : List (Turn ρ)) :
    (p.after turns).AtRest := by
  induction turns generalizing p with
  | nil => exact h
  | cons turn turns ih => exact ih (h.take hturn turn)

end AtRest

namespace Unasked

theorem durable : Durable (Unasked : Player ρ π → Prop) where
  patience := fun h _ => h
  pending := fun hh h _ _ => h (by simp [hh])
  begin := fun hh _ h _ => h (by simp [hh])
  step := fun hh _ _ h _ => h (by simp [hh])

theorem take (h : p.Unasked) (turn : Turn ρ) : (p.take turn).Unasked := by
  cases turn with
  | expiry => exact durable.expire h
  | action a =>
    cases a with
    | build request =>
      have hend := build_end p request
      rw [Player.take, act]
      generalize p.build request = result at hend
      cases hend with
      | refused => exact h
      | failed => exact fun hn => absurd rfl hn
      | built => exact fun _ => rfl
    | start => exact durable.start h
    | stop => exact fun hn => absurd p.held_stop hn
    | submit frame => exact durable.submit h
    | post event => exact durable.post h event
    | alter change => exact durable.alter h

theorem after (h : p.Unasked) (turns : List (Turn ρ)) : (p.after turns).Unasked := by
  induction turns generalizing p with
  | nil => exact h
  | cons turn turns ih => exact ih (h.take turn)

end Unasked

/-! ### Frames -/

/-- Where no pull waits, a frame waits in the queue, and that is all. -/
theorem submit_of_no_wait (h : p.AtRest) (hw : p.waits = false) (frame : Frame) :
    p.submit frame = p.supplied frame := by
  have hsubmit : p.submit frame = (p.supplied frame).settle := rfl
  rw [hsubmit]
  cases hs : p.isStarted with
  | false =>
    have hs' : (p.supplied frame).isStarted = false := hs
    exact mapLoop_of_not_started hs' Loop.settle
  | true =>
    obtain ⟨held, running, hh, hr⟩ := exists_of_isStarted hs
    have hp : running.phase ≠ .pulling := by
      intro on
      rw [waits, hh, Option.any_some, hr, Option.any_some, on] at hw
      cases hw
    have hl := h held running hh hr
    have hrests : ((p.supplied frame).loop held running).AtRest :=
      ⟨hl.caughtUp, hl.sated, Loop.still_of_phase hp⟩
    have hh' : (p.supplied frame).held = some held := hh
    rw [settle_of_running hh' hr, hrests.settle_eq, withLoop_loop hh' hr]

omit [MediaEngine ρ π] in
theorem exists_of_waits (hw : p.waits = true) :
    ∃ held running, p.held = some held ∧ held.running = some running ∧
      (p.loop held running).phase = .pulling := by
  obtain ⟨held, hh, hw⟩ := (Option.any_eq_true _ _).1 hw
  obtain ⟨running, hr, on⟩ := (Option.any_eq_true _ _).1 hw
  exact ⟨held, running, hh, hr, eq_of_beq on⟩

/-- Where a pull waits, it delivers the frame, and the events behind it follow. -/
theorem submit_of_wait (h : p.AtRest) (hquit : p.Unasked) (hh : p.held = some held)
    (hr : held.running = some running) (on : (p.loop held running).phase = .pulling)
    (frame : Frame) :
    p.submit frame =
      p.withLoop held (((p.loop held running).delivered frame).enqueue held.pending).settle := by
  have hawaits := (h held running hh hr).still.awaits on
  have hq : (p.loop held running).quit = false := hquit (by simp [hh])
  have hh' : (p.supplied frame).held = some held := hh
  calc
    p.submit frame = (p.supplied frame).settle := rfl
    _ = p.withLoop held ((p.loop held running).withQueue (p.queue.push frame).2).settle :=
      settle_of_running hh' hr
    _ = p.withLoop held
        (((p.loop held running).delivered frame).enqueue held.pending).settle :=
      congrArg (p.withLoop held) (hawaits.settle_withQueue on hq frame)

/-- What a frame that comes in does to a player, and nothing else. -/
structure TakesIn (p : Player ρ π) (frame : Frame) (p' : Player ρ π) : Prop where
  /-- Where no pull waits, it goes into the queue. -/
  queued : p.waits = false → p' = { p with queue := (p.queue.push frame).2 }
  /-- Where a pull waits, it is delivered, and the events behind the pull follow. -/
  served : ∀ {held running}, p.held = some held → held.running = some running →
    running.phase = .pulling →
      p' = p.withLoop held
        (((p.loop held running).delivered frame).enqueue held.pending).settle
  /-- A refusal ends the loop, and no event is heard any more. -/
  refused : ∀ {held running}, p.held = some held → held.running = some running →
    running.phase = .pulling →
      (MediaEngine.push (running.feed.stamp frame) ⟨held.pipeline, p.engine⟩).1 ≠ .ok () →
      p' = p.withLoop held ((p.loop held running).delivered frame)
  /-- If no event waits, all that may follow is that the pipeline raises its next demand. -/
  alone : ∀ {held running}, p.held = some held → held.running = some running →
    running.phase = .pulling → held.pending = [] →
      (MediaEngine.push (running.feed.stamp frame) ⟨held.pipeline, p.engine⟩).1 = .ok () →
      let l := (p.loop held running).delivered frame
      p' = p.withLoop held l ∨ ∃ rig, MediaEngine.raiseDemand? l.deck.rig = some rig ∧
        p' = p.withLoop held { l with deck := { l.deck with rig }, phase := .pulling }

theorem takesIn_submit (h : p.AtRest) (hquit : p.Unasked) (frame : Frame) :
    p.TakesIn frame (p.submit frame) where
  queued hw := submit_of_no_wait h hw frame
  served hh hr on := submit_of_wait h hquit hh hr on frame
  refused := by
    intro held running hh hr on hrefused
    have off : ((p.loop held running).delivered frame).phase = .ended :=
      Loop.phase_delivered_of_refused hrefused
    rw [submit_of_wait h hquit hh hr on, Loop.enqueue_of_ended off, Loop.settle_of_ended off]
  alone := by
    intro held running hh hr on hp hok l
    have hawaits := (h held running hh hr).still.awaits on
    obtain ⟨hnext, hlistens, hnone⟩ := hawaits.delivered frame hok
    rw [submit_of_wait h hquit hh hr on, hp, Loop.enqueue_nil]
    rcases hnext.settle_of_listening hlistens hnone with hs | ⟨rig, hraised, hs⟩
    · exact .inl (congrArg (p.withLoop held) hs)
    · exact .inr ⟨rig, hraised, congrArg (p.withLoop held) hs⟩

/-- Where a pull waits, the delivery of the frame is the only call, and the queue is empty again. -/
theorem log_submit_of_wait {p : Player (Tape ρ) (Taped π)} {held : Held (Taped π)}
    {running : Running} (h : p.AtRest) (hquit : p.Unasked) (hh : p.held = some held)
    (hr : held.running = some running) (on : running.phase = .pulling) (frame : Frame) :
    (p.submit frame).engine.log = p.engine.log ++ Log.entries held.pipeline.number
        [(.push (running.feed.stamp frame),
          (MediaEngine.push (running.feed.stamp frame) ⟨held.pipeline, p.engine⟩).1.isOk)] ∧
      (p.submit frame).queue = { (p.queue.push frame).2 with frames := [] } := by
  have hawaits := (h held running hh hr).still.awaits on
  obtain ⟨⟨-, hlog⟩, hqueue⟩ := hawaits.told_of_delivered frame held.pending
  rw [submit_of_wait h hquit hh hr on]
  exact ⟨hlog, hqueue⟩

end Player

end StandbyStream
