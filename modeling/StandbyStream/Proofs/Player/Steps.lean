import Mathlib.Logic.Relation
import StandbyStream.Player.Loop
import StandbyStream.Proofs.Frame.Queue

/-!
# The steps of an event loop

`Loop.settle` runs a loop to rest by three mutually dependent functions. Everything that it can do
on the way is one of the eleven steps of `Loop.Step`, each of which says what the queue, the feed
and the pipeline do and leaves the rest of the loop as it is. `settle_steps` takes `settle` apart
into such steps, so that what every step preserves holds of the loop at rest
(`settle_induction`).
-/

namespace StandbyStream

open Relation (ReflTransGen)

variable {ρ π : Type} [MediaEngine ρ π]

namespace Feed

/-- The feed serves no demand: there is no live input, or the fallback has replaced it. -/
def Idle (feed : Feed) : Prop :=
  feed.mode = .fallbackOnly ∨ feed.failedOver = true

/-- The buffer that a frame becomes: its time counts from the first frame taken. -/
def stamp (feed : Feed) (frame : Frame) : Buffer :=
  ⟨frame.timestamp.toNat - (feed.epoch.getD frame.timestamp).toNat, frame.payload⟩

/-- The feed once a frame has set the time origin. -/
def timedFrom (feed : Feed) (frame : Frame) : Feed :=
  { feed with epoch := some (feed.epoch.getD frame.timestamp) }

/-- A feed that is not idle has the live input on air. -/
theorem live_of_not_idle {feed : Feed} (h : ¬ feed.Idle) :
    feed.mode = .live ∧ feed.input = .live := by
  obtain ⟨mode, input, epoch, delivered⟩ := feed
  cases mode with
  | fallbackOnly => exact absurd (Or.inl rfl) h
  | live =>
      cases input with
      | fallback => exact absurd (Or.inr rfl) h
      | live => exact ⟨rfl, rfl⟩

section

variable {feed : Feed} {deck : Deck ρ π} {patience : Patience}

theorem pull_of_idle (h : feed.Idle) : feed.pull patience deck = (.idle, feed, deck) :=
  if_pos h

/-- A feed that is not idle looks into the queue. -/
theorem pull_of_live (live : ¬ feed.Idle) :
    feed.pull patience deck =
      match deck.queue.pop with
      | (.closed, _) => (.closed, feed, deck)
      | (.frame frame, queue) => feed.deliver frame { deck with queue }
      | (.empty, _) =>
        match patience with
        | .lasting => (.waiting, feed, deck)
        | .brief =>
          match feed.trip deck with
          | (.ok _, feed, deck) => (.failedOver, feed, deck)
          | (.error _, feed, deck) => (.fatal .failure, feed, deck) :=
  if_neg live

/-- A feed that is not idle has the fallback put on air when it trips. -/
theorem trip_of_live (live : ¬ feed.Idle) :
    feed.trip deck =
      match MediaEngine.select .fallback deck.rig with
      | (.error fault, rig) => (.error fault, feed, { deck with rig })
      | (.ok (), rig) =>
        (.ok true, { feed with input := .fallback },
          { deck with rig, status := { deck.status with onFallback := true } }) :=
  if_neg fun hf => live (Or.inr hf)

theorem deliver_eq (frame : Frame) :
    feed.deliver frame deck =
      match MediaEngine.push (feed.stamp frame) deck.rig with
      | (.ok (), rig) =>
        (.delivered (feed.stamp frame).pts,
          { feed.timedFrom frame with delivered := feed.delivered + 1 }, { deck with rig })
      | (.error fault, rig) => (.fatal fault, feed.timedFrom frame, { deck with rig }) :=
  rfl

end

end Feed

namespace Loop

/-- One step of a loop that has not ended. -/
inductive Step : Loop ρ π → Loop ρ π → Prop
  /-- A demand finds the feed idle. -/
  | idle {l : Loop ρ π} (on : l.phase ≠ .ended) (h : l.feed.Idle) :
      Step l { l with phase := .listening }
  /-- A pull finds the queue closed. -/
  | closed {l : Loop ρ π} (on : l.phase ≠ .ended) (live : ¬ l.feed.Idle)
      (h : l.deck.queue.closed = true) :
      Step l (l.finish false)
  /-- A pull finds the queue empty and waits. -/
  | waiting {l : Loop ρ π} (on : l.phase ≠ .ended) (live : ¬ l.feed.Idle)
      (hopen : l.deck.queue.closed = false) (h : l.deck.queue.frames = [])
      (hp : l.patience = .lasting) :
      Step l { l with phase := .pulling }
  /-- The live source takes the oldest frame. -/
  | delivered {l : Loop ρ π} {frame : Frame} {rest : List Frame} {rig : Rig ρ π}
      (on : l.phase ≠ .ended) (live : ¬ l.feed.Idle) (hopen : l.deck.queue.closed = false)
      (h : l.deck.queue.frames = frame :: rest)
      (hpush : MediaEngine.push (l.feed.stamp frame) l.deck.rig = (.ok (), rig)) :
      Step l
        { l with
          feed := { l.feed.timedFrom frame with delivered := l.feed.delivered + 1 }
          deck := { l.deck with queue := { l.deck.queue with frames := rest }, rig }
          phase := .listening }
  /-- The live source refuses the oldest frame. -/
  | refused {l : Loop ρ π} {frame : Frame} {rest : List Frame} {fault : FlowError} {rig : Rig ρ π}
      (on : l.phase ≠ .ended) (live : ¬ l.feed.Idle) (hopen : l.deck.queue.closed = false)
      (h : l.deck.queue.frames = frame :: rest)
      (hpush : MediaEngine.push (l.feed.stamp frame) l.deck.rig = (.error fault, rig)) :
      Step l
        (({ l with
            feed := l.feed.timedFrom frame
            deck := { l.deck with queue := { l.deck.queue with frames := rest }, rig } }).finish
          true)
  /-- No frame in time: the fallback goes on air. -/
  | switched {l : Loop ρ π} {rig : Rig ρ π}
      (on : l.phase ≠ .ended) (live : ¬ l.feed.Idle) (hopen : l.deck.queue.closed = false)
      (h : l.deck.queue.frames = []) (hp : l.patience = .brief)
      (hselect : MediaEngine.select .fallback l.deck.rig = (.ok (), rig)) :
      Step l
        { l with
          feed := { l.feed with input := .fallback }
          deck := { l.deck with rig, status := { l.deck.status with onFallback := true } }
          phase := .listening }
  /-- No frame in time, and the fallback cannot be put on air. -/
  | stuck {l : Loop ρ π} {fault : Plain} {rig : Rig ρ π}
      (on : l.phase ≠ .ended) (live : ¬ l.feed.Idle) (hopen : l.deck.queue.closed = false)
      (h : l.deck.queue.frames = []) (hp : l.patience = .brief)
      (hselect : MediaEngine.select .fallback l.deck.rig = (.error fault, rig)) :
      Step l (({ l with deck := { l.deck with rig } }).finish true)
  /-- The stream has ended, or the loop is told to. -/
  | ended {l : Loop ρ π} (on : l.phase = .listening) : Step l (l.finish false)
  /-- An error of the pipeline. -/
  | failed {l : Loop ρ π} (on : l.phase = .listening) : Step l (l.finish true)
  /-- Events are taken off the list. -/
  | handled {l : Loop ρ π} {pending : List Event} (on : l.phase ≠ .ended) :
      Step l { l with pending }
  /-- The pipeline raises a demand by itself. -/
  | demanded {l : Loop ρ π} {rig : Rig ρ π} (on : l.phase = .listening)
      (h : MediaEngine.raiseDemand? l.deck.rig = some rig) :
      Step l { l with deck := { l.deck with rig } }

/-- Any number of steps. -/
abbrev Steps : Loop ρ π → Loop ρ π → Prop :=
  ReflTransGen Step

/-- A step starts from a loop that has not ended. -/
theorem Step.phase_ne_ended {l l' : Loop ρ π} (h : Step l l') : l.phase ≠ .ended := by
  cases h with
  | ended on => simp [on]
  | failed on => simp [on]
  | demanded on _ => simp [on]
  | _ => assumption

/-- What no step touches: the patience, the order to quit and the mode of the feed. -/
theorem Step.frame {l l' : Loop ρ π} (h : Step l l') :
    l'.patience = l.patience ∧ l'.quit = l.quit ∧ l'.feed.mode = l.feed.mode := by
  cases h <;> exact ⟨rfl, rfl, rfl⟩

theorem Steps.frame {l l' : Loop ρ π} (h : Steps l l') :
    l'.patience = l.patience ∧ l'.quit = l.quit ∧ l'.feed.mode = l.feed.mode := by
  induction h with
  | refl => exact ⟨rfl, rfl, rfl⟩
  | tail _ hstep ih =>
      obtain ⟨h1, h2, h3⟩ := hstep.frame
      obtain ⟨i1, i2, i3⟩ := ih
      exact ⟨h1.trans i1, h2.trans i2, h3.trans i3⟩

/-! ## `settle` in steps -/

/-! ### The outcomes of a pull -/

section

variable {l : Loop ρ π}

theorem pull_of_idle (idle : l.feed.Idle) : l.pull = { l with phase := .listening } := by
  rw [pull.eq_def, Feed.pull_of_idle idle]

/-- A pull that finds the queue closed ends the loop. -/
theorem pull_of_closed (live : ¬ l.feed.Idle) (h : l.deck.queue.closed = true) :
    l.pull = l.finish false := by
  rw [pull.eq_def, Feed.pull_of_live live, FrameQueue.pop_of_closed h]

/-- A pull that finds no frame waits for one if it may. -/
theorem pull_of_patient (live : ¬ l.feed.Idle) (hopen : l.deck.queue.closed = false)
    (hq : l.deck.queue.frames = []) (hp : l.patience = .lasting) :
    l.pull = { l with phase := .pulling } := by
  rw [pull.eq_def, Feed.pull_of_live live, FrameQueue.pop_of_empty hopen hq, hp]

/-- A pull that finds no frame in time puts the fallback on air, or ends the loop if it cannot. -/
theorem pull_of_late (live : ¬ l.feed.Idle) (hopen : l.deck.queue.closed = false)
    (hq : l.deck.queue.frames = []) (hp : l.patience = .brief) :
    l.pull =
      match MediaEngine.select .fallback l.deck.rig with
      | (.error _, rig) => ({ l with deck := { l.deck with rig } }).finish true
      | (.ok (), rig) =>
        { l with
          feed := { l.feed with input := .fallback }
          deck := { l.deck with rig, status := { l.deck.status with onFallback := true } }
          phase := .listening } := by
  have hl : l.feed.pull l.patience l.deck =
      match l.feed.trip l.deck with
      | (.ok _, feed, deck) => (.failedOver, feed, deck)
      | (.error _, feed, deck) => (.fatal .failure, feed, deck) := by
    rw [Feed.pull_of_live live, FrameQueue.pop_of_empty hopen hq, hp]
  rw [Feed.trip_of_live live] at hl
  rw [pull.eq_def, hl]
  rcases MediaEngine.select .fallback l.deck.rig with ⟨fault | _, rig⟩ <;> rfl

/-- A pull that finds a frame hands it to the live source, whose refusal ends the loop. -/
theorem pull_of_frame (live : ¬ l.feed.Idle) (hopen : l.deck.queue.closed = false) {frame : Frame}
    {rest : List Frame} (hq : l.deck.queue.frames = frame :: rest) :
    l.pull =
      match MediaEngine.push (l.feed.stamp frame) l.deck.rig with
      | (.error _, rig) =>
        ({ l with
            feed := l.feed.timedFrom frame
            deck := { l.deck with queue := { l.deck.queue with frames := rest }, rig } }).finish
          true
      | (.ok (), rig) =>
        { l with
          feed := { l.feed.timedFrom frame with delivered := l.feed.delivered + 1 }
          deck := { l.deck with queue := { l.deck.queue with frames := rest }, rig }
          phase := .listening } := by
  have hd : l.feed.pull l.patience l.deck =
      l.feed.deliver frame { l.deck with queue := { l.deck.queue with frames := rest } } := by
    rw [Feed.pull_of_live live, FrameQueue.pop_of_cons hopen hq]
  rw [Feed.deliver_eq] at hd
  rw [pull.eq_def, hd]
  rcases MediaEngine.push (l.feed.stamp frame) l.deck.rig with ⟨fault | _, rig⟩ <;> rfl

end

/-- A pull is one step. -/
theorem pull_step (l : Loop ρ π) (on : l.phase ≠ .ended) : Step l l.pull := by
  by_cases idle : l.feed.Idle
  · rw [pull_of_idle idle]
    exact .idle on idle
  -- only now the queue is looked into, and first whether it is closed
  cases hopen : l.deck.queue.closed with
  | true =>
      rw [pull_of_closed idle hopen]
      exact .closed on idle hopen
  | false =>
      cases hq : l.deck.queue.frames with
      | nil =>
          cases hp : l.patience with
          | lasting =>
              rw [pull_of_patient idle hopen hq hp]
              exact .waiting on idle hopen hq hp
          | brief =>
              rw [pull_of_late idle hopen hq hp]
              rcases hs : MediaEngine.select .fallback l.deck.rig with ⟨fault | _, rig⟩
              · exact .stuck on idle hopen hq hp hs
              · exact .switched on idle hopen hq hp hs
      | cons frame rest =>
          rw [pull_of_frame idle hopen hq]
          rcases hs : MediaEngine.push (l.feed.stamp frame) l.deck.rig with ⟨fault | _, rig⟩
          · exact .refused on idle hopen hq hs
          · exact .delivered on idle hopen hq hs

/-- Handling an event is at most one step. -/
theorem handle_steps (l : Loop ρ π) (on : l.phase = .listening) (event : Event) :
    Steps l (l.handle event) := by
  have on' : l.phase ≠ .ended := by simp [on]
  cases event with
  | needData => exact ReflTransGen.single (pull_step l on')
  | endOfStream => exact ReflTransGen.single (.ended on)
  | warning source message => exact ReflTransGen.refl
  | error source message => exact ReflTransGen.single (.failed on)
  | wake => exact ReflTransGen.refl

theorem handleAll_steps (events : List Event) (l : Loop ρ π) (on : l.phase = .listening) :
    Steps l (l.handleAll events) := by
  induction events generalizing l with
  | nil => exact ReflTransGen.single (.handled (by simp [on]))
  | cons event rest ih =>
      -- the rest is handled only if the loop still listens; a pull that waits keeps it pending
      have h := handle_steps l on event
      rw [handleAll.eq_def]
      simp only
      split
      · next hp =>
          split
          · exact h.tail (.ended hp)
          · exact h.trans (ih _ hp)
      · next hp => exact h.tail (.handled (by simp [hp]))
      · exact h

theorem serveDemand_steps (count : Nat) (l : Loop ρ π) : Steps l (l.serveDemand count) := by
  induction count generalizing l with
  | zero => exact ReflTransGen.refl
  | succ count ih =>
      rw [serveDemand.eq_def]
      simp only
      split
      · next rig on h =>
          -- a demand that is served is two steps: it is raised, and it is answered by a pull
          have hd : Step l { l with deck := { l.deck with rig } } := .demanded on h
          have hp := pull_step { l with deck := { l.deck with rig } } (by simp [on])
          exact ((ReflTransGen.single hd).tail hp).trans (ih _)
      · exact ReflTransGen.refl

theorem resume_steps (l : Loop ρ π) : Steps l l.resume := by
  rw [resume.eq_def]
  split
  · next hp =>
      have h := pull_step l (by simp [hp])
      simp only
      split
      · next hq => exact (ReflTransGen.single h).tail (.ended hq.1)
      · exact ReflTransGen.single h
  · exact ReflTransGen.refl

/-- A loop is run to rest by steps. -/
theorem settle_steps (l : Loop ρ π) : Steps l l.settle := by
  have hr := resume_steps l
  rw [settle.eq_def]
  simp only
  split
  · next on => exact (hr.trans (handleAll_steps _ _ on)).trans (serveDemand_steps _ _)
  · exact hr.trans (serveDemand_steps _ _)

/-- What every step preserves holds of a loop at rest. -/
theorem settle_induction {C : Loop ρ π → Prop} (step : ∀ {l l'}, Step l l' → C l → C l')
    {l : Loop ρ π} (h : C l) : C l.settle := by
  have hs := settle_steps l
  generalize l.settle = l' at hs ⊢
  induction hs with
  | refl => exact h
  | tail _ hstep ih => exact step hstep ih

/-- What the beginning of a loop leaves as it is. -/
theorem begin_frame (l : Loop ρ π) :
    l.begin.patience = l.patience ∧ l.begin.quit = l.quit ∧ l.begin.feed = l.feed ∧
      l.begin.deck.queue = l.deck.queue := by
  rw [begin.eq_def]
  split <;> exact ⟨rfl, rfl, rfl, rfl⟩

end Loop

end StandbyStream
