import StandbyStream.Frame.Queue

/-!
# The frame queue as a bounded queue that drops the oldest

Whatever is done to a frame queue, its answers and the frames that wait in it are those of a
`Fifo`, and its counters account for every frame that was pushed (`FrameQueue.refines_fifo`).
What an operation can do is said once, by the eight cases of `FrameQueue.Move`; in a sound queue a
push evicts at most one frame, so that no other case is left (`Sound.move`).

Operations are atomic. A pop that waits acts when it ends; until then it finds the queue open and
empty, and leaves it as it is.
-/

namespace StandbyStream

namespace FrameQueue

/-! ## Operations -/

/-- What can be done to a queue. A push comes from one of any number of producers. -/
inductive Operation where
  | push (producer : Nat) (frame : Frame)
  | pop
  | close
  | reset

/-- What an operation is answered with. -/
inductive Answer where
  | pushed (result : PushResult)
  | popped (result : PopResult)
  | done

/-- Performs an operation. -/
def perform (q : FrameQueue) : Operation → Answer × FrameQueue
  | .push _ frame =>
    let (result, q) := q.push frame
    (.pushed result, q)
  | .pop =>
    let (result, q) := q.pop
    (.popped result, q)
  | .close => (.done, q.close)
  | .reset => (.done, q.reset)

/-- The queue after operations, the first one first. -/
def after (q : FrameQueue) : List Operation → FrameQueue
  | [] => q
  | op :: ops => (q.perform op).2.after ops

/-- The answers to operations. -/
def answers (q : FrameQueue) : List Operation → List Answer
  | [] => []
  | op :: ops => (q.perform op).1 :: (q.perform op).2.answers ops

theorem after_append (q : FrameQueue) (ops ops' : List Operation) :
    q.after (ops ++ ops') = (q.after ops).after ops' := by
  induction ops generalizing q with
  | nil => rfl
  | cons op ops ih => exact ih _

/-! ## The queue as its users see it -/

/-- The frames that wait, the oldest first, as long as the queue is open. -/
abbrev Fifo := Option (List Frame)

/-- What is asked of a queue with a bound. -/
def Fifo.perform (bound : Nat) : Fifo → Operation → Answer × Fifo
  | none, .push .. => (.pushed .discarded, none)
  | none, .pop => (.popped .closed, none)
  | some frames, .push _ frame =>
    if frames.length < bound then (.pushed .queued, some (frames ++ [frame]))
    else (.pushed .evicted, some (frames.tail ++ [frame]))
  | some [], .pop => (.popped .empty, some [])
  | some (frame :: rest), .pop => (.popped (.frame frame), some rest)
  | _, .close => (.done, none)
  | _, .reset => (.done, some [])

/-- What waits after operations. -/
def Fifo.after (bound : Nat) (waiting : Fifo) : List Operation → Fifo
  | [] => waiting
  | op :: ops => Fifo.after bound (Fifo.perform bound waiting op).2 ops

/-- The answers that are asked for. -/
def Fifo.answers (bound : Nat) (waiting : Fifo) : List Operation → List Answer
  | [] => []
  | op :: ops =>
    (Fifo.perform bound waiting op).1 ::
      Fifo.answers bound (Fifo.perform bound waiting op).2 ops

/-- What waits in a queue. -/
def waiting (q : FrameQueue) : Fifo :=
  if q.closed then none else some q.frames

theorem waiting_of_open {q : FrameQueue} (h : q.closed = false) : q.waiting = some q.frames := by
  rw [waiting, h]
  rfl

/-! ## What an operation does -/

theorem pop_of_closed {q : FrameQueue} (h : q.closed = true) : q.pop = (.closed, q) :=
  if_pos h

theorem pop_of_empty {q : FrameQueue} (hopen : q.closed = false) (h : q.frames = []) :
    q.pop = (.empty, q) := by
  rw [pop.eq_def, hopen, h]
  rfl

theorem pop_of_cons {q : FrameQueue} (hopen : q.closed = false) {frame : Frame}
    {rest : List Frame} (h : q.frames = frame :: rest) :
    q.pop = (.frame frame, { q with frames := rest }) := by
  have hc : ¬ q.closed = true := by simp [hopen]
  rw [pop.eq_def, if_neg hc, h]

theorem push_of_closed {q : FrameQueue} (h : q.closed = true) (frame : Frame) :
    q.push frame = (.discarded, { q with discarded := q.discarded + 1 }) :=
  if_pos h

/-- A push neither opens nor closes the queue. -/
theorem closed_push (q : FrameQueue) (frame : Frame) : (q.push frame).2.closed = q.closed := by
  rw [push.eq_def]
  split <;> rfl

/-- With room left a push evicts nothing. -/
theorem push_of_room {q : FrameQueue} (hopen : q.closed = false)
    (room : q.frames.length < q.capacity) (frame : Frame) :
    q.push frame = (.queued, { q with frames := q.frames ++ [frame], pushed := q.pushed + 1 }) := by
  have hc : ¬ q.closed = true := by simp [hopen]
  have hs : q.surplus = 0 := by rw [surplus]; omega
  rw [push.eq_def, if_neg hc, if_pos hs, hs]
  rfl

/-- With as many frames as the bound allows, the oldest has to go and no other. -/
theorem push_of_full {q : FrameQueue} (hopen : q.closed = false)
    (full : q.frames.length = q.capacity) (frame : Frame) :
    q.push frame =
      (.evicted,
        { q with
          frames := q.frames.tail ++ [frame]
          pushed := q.pushed + 1
          evicted := q.evicted + 1 }) := by
  have hc : ¬ q.closed = true := by simp [hopen]
  have hs : q.surplus = 1 := by rw [surplus]; omega
  rw [push.eq_def, if_neg hc, hs, if_neg Nat.one_ne_zero, List.drop_one]

/-- What an operation does to a queue and how it is answered. -/
inductive Move (q : FrameQueue) : Operation → Answer × FrameQueue → Prop
  | discarded {producer : Nat} {frame : Frame} (h : q.closed = true) :
      Move q (.push producer frame)
        (.pushed .discarded, { q with discarded := q.discarded + 1 })
  | queued {producer : Nat} {frame : Frame} (hopen : q.closed = false)
      (room : q.frames.length < q.capacity) :
      Move q (.push producer frame)
        (.pushed .queued, { q with frames := q.frames ++ [frame], pushed := q.pushed + 1 })
  | evicted {producer : Nat} {frame oldest : Frame} {rest : List Frame}
      (hopen : q.closed = false) (full : q.frames.length = q.capacity)
      (h : q.frames = oldest :: rest) :
      Move q (.push producer frame)
        (.pushed .evicted,
          { q with
            frames := rest ++ [frame]
            pushed := q.pushed + 1
            evicted := q.evicted + 1 })
  | closed (h : q.closed = true) : Move q .pop (.popped .closed, q)
  | empty (hopen : q.closed = false) (h : q.frames = []) : Move q .pop (.popped .empty, q)
  | popped {frame : Frame} {rest : List Frame} (hopen : q.closed = false)
      (h : q.frames = frame :: rest) :
      Move q .pop (.popped (.frame frame), { q with frames := rest })
  | close : Move q .close (.done, q.close)
  | reset : Move q .reset (.done, q.reset)

/-- A queue with room for a frame, and in it no more than the bound allows. -/
structure Sound (q : FrameQueue) : Prop where
  roomy : 0 < q.capacity
  fits : q.frames.length ≤ q.capacity
  emptied : q.closed = true → q.frames = []

theorem sound_ofCapacity (capacity : Nat) : (ofCapacity capacity).Sound :=
  ⟨Nat.le_max_right _ _, Nat.zero_le _, fun _ => rfl⟩

theorem Sound.move {q : FrameQueue} (h : q.Sound) (op : Operation) : Move q op (q.perform op) := by
  cases op with
  | push producer frame =>
      rw [perform]
      cases hc : q.closed with
      | true =>
          rw [push_of_closed hc]
          exact .discarded hc
      | false =>
          rcases Nat.lt_or_eq_of_le h.fits with room | full
          · rw [push_of_room hc room]
            exact .queued hc room
          · rw [push_of_full hc full]
            cases hq : q.frames with
            | nil =>
                -- an empty queue is not full
                have hroomy := h.roomy
                rw [← full, hq] at hroomy
                exact absurd hroomy (Nat.lt_irrefl 0)
            | cons oldest rest => exact .evicted hc full hq
  | pop =>
      rw [perform]
      cases hc : q.closed with
      | true =>
          rw [pop_of_closed hc]
          exact .closed hc
      | false =>
          cases hq : q.frames with
          | nil =>
              rw [pop_of_empty hc hq]
              exact .empty hc hq
          | cons frame rest =>
              rw [pop_of_cons hc hq]
              exact .popped hc hq
  | close => exact .close
  | reset => exact .reset

namespace Move

variable {q : FrameQueue} {op : Operation} {result : Answer × FrameQueue}

theorem capacity_eq (h : Move q op result) : result.2.capacity = q.capacity := by
  cases h <;> rfl

theorem sound (h : Move q op result) (hq : q.Sound) : result.2.Sound := by
  obtain ⟨roomy, fits, emptied⟩ := hq
  cases h with
  | discarded => exact ⟨roomy, fits, emptied⟩
  | queued hopen room =>
      refine ⟨roomy, ?_, fun hc => absurd (hopen.symm.trans hc) Bool.false_ne_true⟩
      simpa using Nat.succ_le_of_lt room
  | evicted hopen full hq =>
      refine ⟨roomy, ?_, fun hc => absurd (hopen.symm.trans hc) Bool.false_ne_true⟩
      simpa [hq] using fits
  | closed => exact ⟨roomy, fits, emptied⟩
  | empty => exact ⟨roomy, fits, emptied⟩
  | popped hopen hq =>
      refine ⟨roomy, ?_, fun hc => absurd (hopen.symm.trans hc) Bool.false_ne_true⟩
      rw [hq, List.length_cons] at fits
      exact Nat.le_of_succ_le fits
  | close => exact ⟨roomy, Nat.zero_le _, fun _ => rfl⟩
  | reset => exact ⟨roomy, Nat.zero_le _, nofun⟩

/-- The operation is answered, and leaves waiting, as asked. -/
theorem simulates (h : Move q op result) :
    Fifo.perform q.capacity q.waiting op = (result.1, result.2.waiting) := by
  cases h with
  | discarded hc => simp [waiting, hc, Fifo.perform]
  | queued hopen room => simp [waiting, hopen, room, Fifo.perform]
  | evicted hopen full hq =>
      have hroom : ¬ q.frames.length < q.capacity := by omega
      simp only [waiting_of_open hopen, Fifo.perform, if_neg hroom]
      simp [waiting, hopen, hq]
  | closed hc => simp [waiting, hc, Fifo.perform]
  | empty hopen hq => simp [waiting, hopen, hq, Fifo.perform]
  | popped hopen hq => simp [waiting, hopen, hq, Fifo.perform]
  | close =>
      cases hc : q.closed <;> simp [waiting, hc, Fifo.perform, FrameQueue.close]
  | reset =>
      cases hc : q.closed <;> simp [waiting, hc, Fifo.perform, FrameQueue.reset]

end Move

/-! ## Where the frames are -/

/-- What has gone through a queue. -/
structure Traffic where
  /-- Number of pushes, whatever became of them. -/
  pushes : Nat
  /-- The frames that were accepted, with their producers, in the order of the pushes. -/
  accepted : List (Nat × Frame)
  /-- The frames that were popped, in the order of the pops. -/
  popped : List Frame
  /-- Number of frames that were waiting when the queue was closed or reset. -/
  dropped : Nat

/-- Nothing has gone through. -/
def Traffic.none : Traffic :=
  ⟨0, [], [], 0⟩

/-- The traffic once a queue has performed an operation, by the answer to it. -/
def trafficAfter (q : FrameQueue) (t : Traffic) (op : Operation) : Traffic :=
  match op, (q.perform op).1 with
  | .push .., .pushed .discarded => { t with pushes := t.pushes + 1 }
  | .push producer frame, _ =>
    { t with pushes := t.pushes + 1, accepted := t.accepted ++ [(producer, frame)] }
  | .pop, .popped (.frame frame) => { t with popped := t.popped ++ [frame] }
  | .pop, _ => t
  | .close, _ => { t with dropped := t.dropped + q.size }
  | .reset, _ => { t with dropped := t.dropped + q.size }

/-- The traffic after operations, that before them given. -/
def trafficOf (q : FrameQueue) (t : Traffic) : List Operation → Traffic
  | [] => t
  | op :: ops => (q.perform op).2.trafficOf (q.trafficAfter t op) ops

/-- Every frame is accounted for: those popped, followed by those that wait, were accepted in this
order, and the counters add up. -/
structure Accounts (t : Traffic) (q : FrameQueue) : Prop where
  ordered : ∃ taken left : List (Nat × Frame), taken.map Prod.snd = t.popped ∧
    left.map Prod.snd = q.frames ∧ (taken ++ left).Sublist t.accepted
  pushed : q.pushed = t.accepted.length
  balanced : q.pushed = t.popped.length + q.evicted + t.dropped + q.frames.length
  pushes : t.pushes = q.pushed + q.discarded

theorem accounts_ofCapacity (capacity : Nat) : Accounts .none (ofCapacity capacity) :=
  ⟨⟨[], [], rfl, rfl, .slnil⟩, rfl, rfl, rfl⟩

/-- Frames that are dropped may be any that wait. -/
theorem Accounts.drop {t : Traffic} {q q' : FrameQueue} (h : Accounts t q)
    (hframes : q'.frames = []) (hcounts : q'.pushed = q.pushed ∧ q'.evicted = q.evicted ∧
      q'.discarded = q.discarded) :
    Accounts { t with dropped := t.dropped + q.size } q' := by
  obtain ⟨⟨taken, left, htaken, -, hsub⟩, hpushed, hbalanced, hpushes⟩ := h
  obtain ⟨h1, h2, h3⟩ := hcounts
  refine ⟨⟨taken, [], htaken, hframes.symm, ?_⟩, ?_, ?_, ?_⟩
  · rw [List.append_nil]
    exact (List.sublist_append_left taken left).trans hsub
  · rw [h1, hpushed]
  · rw [h1, h2, hframes, hbalanced]
    simp only [size, List.length_nil]
    omega
  · rw [h1, h3, hpushes]

theorem Move.accounts {t : Traffic} {q : FrameQueue} {op : Operation}
    (h : Move q op (q.perform op)) (ha : Accounts t q) :
    Accounts (q.trafficAfter t op) (q.perform op).2 := by
  rw [trafficAfter.eq_def]
  generalize q.perform op = result at h
  have ⟨⟨taken, left, htaken, hleft, hsub⟩, hpushed, hbalanced, hpushes⟩ := ha
  cases h with
  | discarded =>
      have hpushes' : t.pushes + 1 = q.pushed + (q.discarded + 1) := by omega
      exact ⟨ha.ordered, hpushed, hbalanced, hpushes'⟩
  | @queued producer frame hopen room =>
      refine ⟨⟨taken, left ++ [(producer, frame)], htaken, ?_, ?_⟩, ?_, ?_, ?_⟩
      · rw [List.map_append, hleft]
        rfl
      · rw [← List.append_assoc]
        exact hsub.append_right _
      · simp only [List.length_append, List.length_singleton, hpushed]
      · simp only [List.length_append, List.length_singleton]
        omega
      · simp only
        omega
  | @evicted producer frame oldest rest hopen full hq =>
      rw [hq] at hleft hbalanced
      obtain ⟨first, left, rfl, -, hleft⟩ := List.map_eq_cons_iff.1 hleft
      refine ⟨⟨taken, left ++ [(producer, frame)], htaken, ?_, ?_⟩, ?_, ?_, ?_⟩
      · rw [List.map_append, hleft]
        rfl
      · rw [← List.append_assoc]
        refine List.Sublist.append_right (List.Sublist.trans ?_ hsub) _
        exact (List.sublist_cons_self first left).append_left taken
      · simp only [List.length_append, List.length_singleton, hpushed]
      · simp only [List.length_append, List.length_cons, List.length_nil] at hbalanced ⊢
        omega
      · simp only
        omega
  | closed => exact ha
  | empty => exact ha
  | @popped frame rest hopen hq =>
      rw [hq] at hleft hbalanced
      obtain ⟨first, left, rfl, hfirst, hleft⟩ := List.map_eq_cons_iff.1 hleft
      refine ⟨⟨taken ++ [first], left, ?_, hleft, ?_⟩, hpushed, ?_, hpushes⟩
      · rw [List.map_append, htaken, ← hfirst]
        rfl
      · rw [List.append_assoc]
        exact hsub
      · simp only [List.length_append, List.length_cons, List.length_nil] at hbalanced ⊢
        omega
  | close => exact ha.drop rfl ⟨rfl, rfl, rfl⟩
  | reset => exact ha.drop rfl ⟨rfl, rfl, rfl⟩

/-! ## Runs -/

/-- A sound queue stays sound, whatever is done to it, and keeps its bound. -/
theorem Sound.after {q : FrameQueue} (h : q.Sound) (ops : List Operation) :
    (q.after ops).Sound ∧ (q.after ops).capacity = q.capacity := by
  induction ops generalizing q with
  | nil => exact ⟨h, rfl⟩
  | cons op ops ih =>
      have hm := h.move op
      obtain ⟨hs, hc⟩ := ih (hm.sound h)
      exact ⟨hs, hc.trans hm.capacity_eq⟩

theorem Sound.simulates {q : FrameQueue} (h : q.Sound) (ops : List Operation) :
    q.answers ops = Fifo.answers q.capacity q.waiting ops ∧
      (q.after ops).waiting = Fifo.after q.capacity q.waiting ops := by
  induction ops generalizing q with
  | nil => exact ⟨rfl, rfl⟩
  | cons op ops ih =>
      have hm := h.move op
      obtain ⟨hanswers, hafter⟩ := ih (hm.sound h)
      rw [hm.capacity_eq] at hanswers hafter
      rw [FrameQueue.answers, FrameQueue.after, Fifo.answers, Fifo.after, hm.simulates]
      exact ⟨congrArg _ hanswers, hafter⟩

theorem Accounts.after {t : Traffic} {q : FrameQueue} (ha : Accounts t q) (h : q.Sound)
    (ops : List Operation) : Accounts (q.trafficOf t ops) (q.after ops) := by
  induction ops generalizing q t with
  | nil => exact ha
  | cons op ops ih =>
      have hm := h.move op
      exact ih (hm.accounts ha) (hm.sound h)

/-- A frame queue is a bounded queue that drops the oldest frame. After any operations on a new
queue, in this order: it has answered as asked, and what waits is as asked; no more frames wait than
its bound, for which zero counts as one; a push into the open queue evicts the oldest frame exactly
if as many wait as the bound allows, and counts one eviction; a closed queue discards every push and
answers every pop with `closed`; the popped frames are some of the accepted ones in the order of the
pushes, those of each producer among them; and the counters account for every push. -/
theorem refines_fifo (capacity : Nat) (ops : List Operation) :
    let bound := max capacity 1
    let q := (ofCapacity capacity).after ops
    let traffic := (ofCapacity capacity).trafficOf .none ops
    ((ofCapacity capacity).answers ops = Fifo.answers bound (some []) ops ∧
      q.waiting = Fifo.after bound (some []) ops) ∧
    q.frames.length ≤ bound ∧
    (q.closed = false → ∀ frame, q.push frame =
      if q.frames.length = bound then
        (.evicted,
          { q with
            frames := q.frames.tail ++ [frame]
            pushed := q.pushed + 1
            evicted := q.evicted + 1 })
      else (.queued, { q with frames := q.frames ++ [frame], pushed := q.pushed + 1 })) ∧
    (q.closed = true →
      (∀ frame, q.push frame = (.discarded, { q with discarded := q.discarded + 1 })) ∧
      q.pop = (.closed, q)) ∧
    (∃ taken : List (Nat × Frame), taken.map Prod.snd = traffic.popped ∧
      taken.Sublist traffic.accepted ∧
      ∀ producer, (taken.filter (·.1 = producer)).Sublist
        (traffic.accepted.filter (·.1 = producer))) ∧
    q.pushed = traffic.accepted.length ∧
    q.pushed = traffic.popped.length + q.evicted + traffic.dropped + q.frames.length ∧
    traffic.pushes = q.pushed + q.discarded := by
  intro bound q traffic
  have hnew := sound_ofCapacity capacity
  obtain ⟨hq, hbound⟩ : q.Sound ∧ q.capacity = bound := hnew.after ops
  have ha : Accounts traffic q := (accounts_ofCapacity capacity).after hnew ops
  obtain ⟨taken, left, htaken, -, hsub⟩ := ha.ordered
  have hsub' := (List.sublist_append_left taken left).trans hsub
  refine ⟨hnew.simulates ops, hbound ▸ hq.fits, ?_, ?_, ?_, ha.pushed, ha.balanced, ha.pushes⟩
  · intro hopen frame
    split
    · next full => exact push_of_full hopen (full.trans hbound.symm) frame
    · next hlt =>
        have room : q.frames.length < q.capacity :=
          Nat.lt_of_le_of_ne hq.fits fun full => hlt (full.trans hbound)
        exact push_of_room hopen room frame
  · exact fun hc => ⟨push_of_closed hc, pop_of_closed hc⟩
  · exact ⟨taken, htaken, hsub', fun producer => hsub'.filter _⟩

/-- A frame of the first producer is evicted by the third push, one of the second is popped, and the
last is discarded. -/
def rush : List Operation :=
  [.push 1 ⟨1, [10]⟩, .push 2 ⟨2, [20]⟩, .push 1 ⟨3, [30]⟩, .pop, .close, .push 2 ⟨4, [40]⟩]

theorem refines_fifo_rush :
    let q := (ofCapacity 2).after rush
    q.closed = true ∧ q.pop = (.closed, q) ∧
      (ofCapacity 2).answers rush = Fifo.answers 2 (some []) rush ∧
      ((ofCapacity 2).after (rush.take 3)).closed = false ∧
      (((ofCapacity 2).after (rush.take 3)).push ⟨5, []⟩).1 = .evicted := by
  intro q
  have hc : q.closed = true := by decide
  have hopen : ((ofCapacity 2).after (rush.take 3)).closed = false := by decide
  obtain ⟨⟨hanswers, -⟩, -, -, hclosed, -⟩ := refines_fifo 2 rush
  obtain ⟨-, -, hpush, -⟩ := refines_fifo 2 (rush.take 3)
  have hfull : ((ofCapacity 2).after (rush.take 3)).frames.length = max 2 1 := by decide
  refine ⟨hc, (hclosed hc).2, hanswers, hopen, ?_⟩
  rw [hpush hopen, if_pos hfull]

end FrameQueue

end StandbyStream
