import StandbyStream.Proofs.Player.Delivery

/-!
# Presentation times

A feed is pulled by whoever holds it, while frames are queued, the queue is closed and reset, and
the engine begins or ceases to fail; nothing stops its owner from pulling on after a refusal. Every
pull tells which frame it took from the queue and what became of it (`Draw`).

The times of what is delivered count from the first frame that was taken, and a frame that the live
source refuses has been taken as well. `Feeder.times_of_run` says so for every run, and when this
is the same as to count from the first frame that was delivered.
-/

namespace StandbyStream

/-- A feed and what it is fed from. -/
structure Feeder (ρ π : Type) where
  feed : Feed
  deck : Deck ρ π

/-- A pull: the frame that it took from the queue, if it took one, and what became of it. -/
structure Draw where
  frame? : Option Frame
  outcome : Feed.Outcome
  deriving DecidableEq, Repr

/-- A frame that the live source has taken, with its presentation time. -/
structure Delivery where
  frame : Frame
  pts : Nat
  deriving DecidableEq, Repr

namespace Draw

/-- What the pull delivered. -/
def delivery? : Draw → Option Delivery
  | ⟨some frame, .delivered pts⟩ => some ⟨frame, pts⟩
  | _ => none

/-- The frames that pulls took, whatever became of them. -/
def taken (draws : List Draw) : List Frame :=
  draws.filterMap frame?

/-- What pulls delivered. -/
def deliveries (draws : List Draw) : List Delivery :=
  draws.filterMap delivery?

@[simp] theorem taken_append (draws draws' : List Draw) :
    taken (draws ++ draws') = taken draws ++ taken draws' :=
  List.filterMap_append

@[simp] theorem deliveries_append (draws draws' : List Draw) :
    deliveries (draws ++ draws') = deliveries draws ++ deliveries draws' :=
  List.filterMap_append

theorem mem_deliveries {draws : List Draw} {delivery : Delivery} :
    delivery ∈ deliveries draws ↔
      ⟨some delivery.frame, .delivered delivery.pts⟩ ∈ draws := by
  rw [deliveries, List.mem_filterMap]
  constructor
  · rintro ⟨⟨frame?, outcome⟩, hm, hd⟩
    cases frame? with
    | none => cases hd
    | some frame =>
        cases outcome with
        | delivered pts =>
            cases hd
            exact hm
        | _ => cases hd
  · intro hm
    exact ⟨_, hm, rfl⟩

/-- What is delivered has been taken. -/
theorem frame_mem_taken {draws : List Draw} {delivery : Delivery}
    (h : delivery ∈ deliveries draws) : delivery.frame ∈ taken draws :=
  List.mem_filterMap.2 ⟨_, mem_deliveries.1 h, rfl⟩

end Draw

/-- The times of deliveries count from a frame, and none is below zero. -/
def CountFrom (origin : Frame) (deliveries : List Delivery) : Prop :=
  ∀ delivery ∈ deliveries,
    delivery.pts = delivery.frame.timestamp.toNat - origin.timestamp.toNat

instance (origin : Frame) (deliveries : List Delivery) :
    Decidable (CountFrom origin deliveries) :=
  inferInstanceAs (Decidable (∀ _ ∈ _, _))

/-- Times that count from one frame count from another as well if the two are of one time or no
delivered frame is later than either. -/
theorem CountFrom.iff_of_countFrom {origin other : Frame} {deliveries : List Delivery}
    (h : CountFrom origin deliveries) :
    CountFrom other deliveries ↔
      origin.timestamp = other.timestamp ∨
        ∀ delivery ∈ deliveries, delivery.frame.timestamp ≤ origin.timestamp ∧
          delivery.frame.timestamp ≤ other.timestamp := by
  simp only [UInt64.le_iff_toNat_le, ← UInt64.toNat_inj]
  constructor
  · intro hother
    by_cases heq : origin.timestamp.toNat = other.timestamp.toNat
    · exact Or.inl heq
    · refine Or.inr fun delivery hm => ?_
      have h1 := h delivery hm
      have h2 := hother delivery hm
      omega
  · rintro (heq | hearly) delivery hm
    · rw [h delivery hm, heq]
    · obtain ⟨h1, h2⟩ := hearly delivery hm
      have h3 := h delivery hm
      omega

/-! ## One pull -/

namespace Feed

variable {ρ π : Type}

/-- How a pull can end: it takes no frame, delivers none and leaves the time origin alone, or it
takes the oldest frame, which is timed by the feed and delivered or refused. -/
inductive PullEnd (feed : Feed) (deck : Deck ρ π) : Draw → Feed → Prop
  | spared {outcome : Outcome} {feed' : Feed} (kept : feed'.epoch = feed.epoch)
      (undelivered : ∀ pts, outcome ≠ .delivered pts) :
      PullEnd feed deck ⟨none, outcome⟩ feed'
  | delivered {frame : Frame} {rest : List Frame} (h : deck.queue.frames = frame :: rest) :
      PullEnd feed deck ⟨some frame, .delivered (feed.stamp frame).pts⟩
        { feed.timedFrom frame with delivered := feed.delivered + 1 }
  | refused {frame : Frame} {rest : List Frame} {fault : FlowError}
      (h : deck.queue.frames = frame :: rest) :
      PullEnd feed deck ⟨some frame, .fatal fault⟩ (feed.timedFrom frame)

/-- The frame that the next pull takes from the queue, if it takes one. -/
def next? (feed : Feed) (deck : Deck ρ π) : Option Frame :=
  if feed.mode = .fallbackOnly ∨ feed.failedOver then none
  else
    match deck.queue.pop with
    | (.frame frame, _) => some frame
    | _ => none

theorem next?_of_idle {feed : Feed} (h : feed.Idle) (deck : Deck ρ π) : feed.next? deck = none :=
  if_pos h

theorem next?_of_live {feed : Feed} (live : ¬ feed.Idle) (deck : Deck ρ π) :
    feed.next? deck =
      match deck.queue.pop with
      | (.frame frame, _) => some frame
      | _ => none :=
  if_neg live

/-- A feed stamps a frame with its time from the first frame taken, itself included. -/
theorem TimedBy.pts_stamp {before : List Frame} {feed : Feed} (h : feed.TimedBy before)
    {frame origin : Frame} (horigin : (before ++ [frame]).head? = some origin) :
    (feed.stamp frame).pts = frame.timestamp.toNat - origin.timestamp.toNat := by
  rw [TimedBy] at h
  rw [stamp, h]
  cases before <;> cases horigin <;> rfl

theorem pull_end [MediaEngine ρ π] (feed : Feed) (deck : Deck ρ π) (patience : Patience) :
    PullEnd feed deck ⟨feed.next? deck, (feed.pull patience deck).1⟩
      (feed.pull patience deck).2.1 := by
  by_cases hi : feed.Idle
  · rw [pull_of_idle hi, next?_of_idle hi]
    exact .spared rfl nofun
  rw [pull_of_live hi, next?_of_live hi]
  cases hc : deck.queue.closed with
  | true =>
      rw [FrameQueue.pop_of_closed hc]
      exact .spared rfl nofun
  | false =>
      cases hq : deck.queue.frames with
      | nil =>
          rw [FrameQueue.pop_of_empty hc hq]
          cases patience with
          | lasting => exact .spared rfl nofun
          | brief =>
              simp only
              rw [trip_of_live hi]
              rcases MediaEngine.select .fallback deck.rig with ⟨_ | _, rig⟩ <;>
                exact .spared rfl nofun
      | cons frame rest =>
          rw [FrameQueue.pop_of_cons hc hq]
          simp only
          rw [deliver_eq]
          rcases MediaEngine.push (feed.stamp frame) deck.rig with ⟨_ | _, rig⟩
          · exact .refused hq
          · exact .delivered hq

end Feed

/-! ## Runs -/

namespace Feeder

variable {ρ π : Type}

/-- What happens to a feeder. -/
inductive Turn (ρ : Type) where
  | pull (patience : Patience)
  | push (frame : Frame)
  | close
  | reset
  /-- Something happens to the engine: a fault is set or lifted. -/
  | alter (change : ρ → ρ)

/-- Does something to the queue. -/
def onQueue (f : Feeder ρ π) (change : FrameQueue → FrameQueue) : Feeder ρ π :=
  { f with deck := { f.deck with queue := change f.deck.queue } }

/-- Does something to the engine. -/
def onEngine (f : Feeder ρ π) (change : ρ → ρ) : Feeder ρ π :=
  { f with
    deck := { f.deck with rig := { f.deck.rig with engine := change f.deck.rig.engine } } }

variable [MediaEngine ρ π]

/-- Pulls once. -/
def pull (f : Feeder ρ π) (patience : Patience) : Draw × Feeder ρ π :=
  let (outcome, feed, deck) := f.feed.pull patience f.deck
  (⟨f.feed.next? f.deck, outcome⟩, ⟨feed, deck⟩)

/-- A turn, with the pull that it is, if it is one. -/
def take (f : Feeder ρ π) : Turn ρ → List Draw × Feeder ρ π
  | .pull patience => ([(f.pull patience).1], (f.pull patience).2)
  | .push frame => ([], f.onQueue fun q => (q.push frame).2)
  | .close => ([], f.onQueue .close)
  | .reset => ([], f.onQueue .reset)
  | .alter change => ([], f.onEngine change)

/-- Turns, the first one first, with their pulls. -/
def run (f : Feeder ρ π) : List (Turn ρ) → List Draw × Feeder ρ π
  | [] => ([], f)
  | turn :: turns =>
    let (draws, f') := f.take turn
    (draws ++ (f'.run turns).1, (f'.run turns).2)

/-- The times of what pulls delivered, when the feed had taken the frames `before`, count from the
first frame that was taken at all. -/
def Timed (before : List Frame) (draws : List Draw) : Prop :=
  ∀ origin, (before ++ Draw.taken draws).head? = some origin →
    CountFrom origin (Draw.deliveries draws)

theorem timed_of_none {before : List Frame} {draws : List Draw}
    (h : Draw.deliveries draws = []) : Timed before draws := by
  intro origin _
  rw [h]
  exact nofun

/-- What is delivered later counts from the same frame. -/
theorem Timed.append {before : List Frame} {draws draws' : List Draw} (h : Timed before draws)
    (h' : Timed (before ++ Draw.taken draws) draws') : Timed before (draws ++ draws') := by
  intro origin horigin delivery hm
  rw [Draw.taken_append, ← List.append_assoc] at horigin
  rw [Draw.deliveries_append, List.mem_append] at hm
  cases hm with
  | inr hm => exact h' origin horigin delivery hm
  | inl hm =>
      refine h origin ?_ delivery hm
      -- something has been taken before `draws'`, so the first frame is among it
      have hne : before ++ Draw.taken draws ≠ [] :=
        List.append_ne_nil_of_right_ne_nil _ (List.ne_nil_of_mem (Draw.frame_mem_taken hm))
      rw [List.head?_append, List.head?_eq_some_head hne, Option.some_or] at horigin
      rw [List.head?_eq_some_head hne, horigin]

variable {f : Feeder ρ π} {before : List Frame}

theorem pull_end (f : Feeder ρ π) (patience : Patience) :
    f.feed.PullEnd f.deck (f.pull patience).1 (f.pull patience).2.feed :=
  f.feed.pull_end f.deck patience

/-- A pull that delivers has taken a frame. -/
theorem exists_frame_of_delivered {patience : Patience} {pts : Nat}
    (h : (f.pull patience).1.outcome = .delivered pts) :
    ∃ frame, (f.pull patience).1.frame? = some frame := by
  have hend := f.pull_end patience
  generalize (f.pull patience).1 = draw, (f.pull patience).2.feed = feed' at hend h
  cases hend with
  | spared kept undelivered => exact absurd h (undelivered pts)
  | delivered hq => exact ⟨_, rfl⟩
  | refused hq => cases h

/-- A pull keeps the time origin of a feed that has taken a frame, and times by it. -/
theorem timed_pull (h : f.feed.TimedBy before) (patience : Patience) :
    Timed before [(f.pull patience).1] ∧
      (f.pull patience).2.feed.TimedBy (before ++ Draw.taken [(f.pull patience).1]) := by
  have hend := f.pull_end patience
  generalize (f.pull patience).1 = draw, (f.pull patience).2.feed = feed' at hend
  cases hend with
  | @spared outcome _ kept undelivered =>
      refine ⟨timed_of_none rfl, ?_⟩
      have hb : before ++ Draw.taken [⟨none, outcome⟩] = before := List.append_nil before
      rw [hb, Feed.TimedBy, kept]
      exact h
  | @delivered frame rest hq =>
      refine ⟨?_, h.timedFrom frame⟩
      intro origin horigin delivery hm
      cases List.mem_singleton.1 hm
      exact h.pts_stamp horigin
  | refused hq => exact ⟨timed_of_none rfl, h.timedFrom _⟩

theorem timed_take (h : f.feed.TimedBy before) (turn : Turn ρ) :
    Timed before (f.take turn).1 ∧
      (f.take turn).2.feed.TimedBy (before ++ Draw.taken (f.take turn).1) := by
  cases turn with
  | pull patience => exact timed_pull h patience
  | _ => exact ⟨timed_of_none rfl, (List.append_nil before).symm ▸ h⟩

theorem timed_run (h : f.feed.TimedBy before) (turns : List (Turn ρ)) :
    Timed before (f.run turns).1 := by
  induction turns generalizing f before with
  | nil => exact timed_of_none rfl
  | cons turn turns ih =>
      obtain ⟨hturn, hfeed⟩ := timed_take h turn
      exact hturn.append (ih hfeed)

theorem exists_pull_of_mem_run {turns : List (Turn ρ)} {draw : Draw}
    (h : draw ∈ (f.run turns).1) :
    ∃ (f' : Feeder ρ π) (patience : Patience), (f'.pull patience).1 = draw := by
  induction turns generalizing f with
  | nil => cases h
  | cons turn turns ih =>
      rcases List.mem_append.1 h with h | h
      · cases turn with
        | pull patience => exact ⟨f, patience, (List.mem_singleton.1 h).symm⟩
        | _ => cases h
      · exact ih h

/-- The pulls of a feed that has taken no frame yet. Each that delivers has taken the frame that it
delivers, and all presentation times count from the first frame taken. So the first time is zero
just if its frame is no later than that one, and the times count from the first frame delivered
just if the two are of one time or no delivered frame is later than either. -/
theorem times_of_run (f : Feeder ρ π) (fresh : f.feed.epoch = none) (turns : List (Turn ρ)) :
    let draws := (f.run turns).1
    (∀ draw ∈ draws, ∀ pts, draw.outcome = .delivered pts →
      ∃ frame, draw.frame? = some frame ∧ ⟨frame, pts⟩ ∈ Draw.deliveries draws) ∧
    ∀ first, (Draw.deliveries draws).head? = some first →
      ∃ origin, (Draw.taken draws).head? = some origin ∧
        CountFrom origin (Draw.deliveries draws) ∧
        (first.pts = 0 ↔ first.frame.timestamp ≤ origin.timestamp) ∧
        (CountFrom first.frame (Draw.deliveries draws) ↔
          origin.timestamp = first.frame.timestamp ∨
            ∀ delivery ∈ Draw.deliveries draws,
              delivery.frame.timestamp ≤ origin.timestamp ∧
                delivery.frame.timestamp ≤ first.frame.timestamp) := by
  intro draws
  constructor
  · rintro ⟨frame?, outcome⟩ hm pts rfl
    obtain ⟨f', patience, hpull⟩ := exists_pull_of_mem_run hm
    obtain ⟨frame, hframe⟩ := exists_frame_of_delivered (congrArg Draw.outcome hpull)
    rw [hpull] at hframe
    cases hframe
    exact ⟨frame, rfl, Draw.mem_deliveries.2 hm⟩
  · intro first hfirst
    have hm : first ∈ Draw.deliveries draws := List.mem_of_mem_head? hfirst
    obtain ⟨origin, horigin⟩ :=
      Option.isSome_iff_exists.1 (List.isSome_head?.2 (List.ne_nil_of_mem (Draw.frame_mem_taken hm)))
    have hnone : f.feed.TimedBy [] := fresh
    have hcount : CountFrom origin (Draw.deliveries draws) :=
      timed_run hnone turns origin horigin
    refine ⟨origin, horigin, hcount, ?_, hcount.iff_of_countFrom⟩
    rw [hcount first hm, UInt64.le_iff_toNat_le, Nat.sub_eq_zero_iff_le]

/-! ### The recorder -/

/-- A feeder of the recorder that has done nothing yet. -/
def ofRecorder : Feeder Recorder Nat :=
  ⟨.ofMode .live, .ofCapacity 4, .clear, ⟨0, .withFaults .none⟩⟩

/-- The live source refuses buffers in this way from now on, or takes them again. -/
def answering (fault : Option FlowError) : Turn Recorder :=
  .alter fun recorder => { recorder with faults := { recorder.faults with push := fault } }

/-- Three frames are pulled, the first of which is refused; the last is the earliest. -/
def firstRefused : List (Turn Recorder) :=
  [.push ⟨1000, [1]⟩, .push ⟨1040, [2]⟩, .push ⟨990, [3]⟩, answering (some .flushing),
    .pull .brief, answering none, .pull .brief, .pull .brief]

theorem times_of_firstRefused :
    let draws := (ofRecorder.run firstRefused).1
    ofRecorder.feed.epoch = none ∧
      (Draw.deliveries draws).head? = some ⟨⟨1040, [2]⟩, 40⟩ ∧
      ∃ origin, (Draw.taken draws).head? = some origin ∧
        CountFrom origin (Draw.deliveries draws) ∧ origin.timestamp < 1040 := by
  intro draws
  have fresh : ofRecorder.feed.epoch = none := rfl
  have hfirst : (Draw.deliveries draws).head? = some ⟨⟨1040, [2]⟩, 40⟩ := by decide +kernel
  obtain ⟨-, h⟩ := times_of_run ofRecorder fresh firstRefused
  obtain ⟨origin, horigin, hcount, hzero, -⟩ := h _ hfirst
  refine ⟨fresh, hfirst, origin, horigin, hcount, UInt64.not_le.1 fun hle => ?_⟩
  cases hzero.2 hle

/-- The times of a live feed do not always count from the first frame delivered, and the first time
need not be zero: a frame that was refused before has set the origin. -/
theorem first_time_ne_zero :
    ofRecorder.feed.mode = .live ∧
      (ofRecorder.run firstRefused).1 =
        [⟨some ⟨1000, [1]⟩, .fatal .flushing⟩, ⟨some ⟨1040, [2]⟩, .delivered 40⟩,
          ⟨some ⟨990, [3]⟩, .delivered 0⟩] ∧
      ¬ CountFrom ⟨1040, [2]⟩ (Draw.deliveries (ofRecorder.run firstRefused).1) := by
  decide +kernel

end Feeder

end StandbyStream
