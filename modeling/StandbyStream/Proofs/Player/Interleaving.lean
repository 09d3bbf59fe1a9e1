import StandbyStream.Proofs.Player.Threads

/-!
# Stops in the middle of things

A stop may begin at any point of a loop. Whatever the engine, each thread keeps to its program
(`Threads.InOrder`), and what the stop has seen to by the point where it stands is not undone by the
loop (`Threads.Seen`): it is told to quit, finds the queue closed and is joined. Once it is told to,
each of its actions brings it nearer to its end (`Threads.distance_step`), and before that the stop
never waits; so the stop can come to its end from everywhere (`Threads.Seen.exists_run`).
-/

namespace StandbyStream

/-! ## Orders of actions -/

namespace Act

/-- The pipeline is told to play or to halt. -/
def isMove : Act → Bool
  | .loop .play => true
  | .stop .halt => true
  | _ => false

/-- The last time in a schedule that the pipeline is told to play or to halt. -/
def lastMove? (acts : List Act) : Option Act :=
  (acts.filter isMove).getLast?

/-- One action comes before another in a schedule. -/
def Precedes (first second : Act) (acts : List Act) : Prop :=
  [first, second].Sublist acts

/-- A frame is pushed after the end of the live input. -/
def PushesLate (acts : List Act) : Prop :=
  ∃ frame, Precedes (.stop .endStream) (.loop (.push frame)) acts

/-- The pipeline is told to play before it is told to halt. -/
def PlaysFirst (acts : List Act) : Prop :=
  Precedes (.loop .play) (.stop .halt) acts

instance (first second : Act) (acts : List Act) : Decidable (Precedes first second acts) :=
  inferInstanceAs (Decidable ([first, second].Sublist acts))

instance (acts : List Act) : Decidable (PlaysFirst acts) :=
  inferInstanceAs (Decidable (Precedes _ _ acts))

variable {first second a : Act} {acts : List Act}

theorem precedes_concat :
    Precedes first second (acts ++ [a]) ↔
      Precedes first second acts ∨ second = a ∧ first ∈ acts := by
  have hreverse (acts : List Act) :
      Precedes first second acts ↔ [second, first].Sublist acts.reverse :=
    List.reverse_sublist.symm
  rw [hreverse, hreverse, List.reverse_append, List.reverse_singleton, List.singleton_append,
    List.sublist_cons_iff]
  apply or_congr Iff.rfl
  constructor
  · rintro ⟨_, heq, hr⟩
    cases heq
    exact ⟨rfl, List.mem_reverse.1 (List.singleton_sublist.1 hr)⟩
  · rintro ⟨rfl, hfirst⟩
    exact ⟨[first], rfl, List.singleton_sublist.2 (List.mem_reverse.2 hfirst)⟩

theorem Precedes.mem (h : Precedes first second acts) : first ∈ acts ∧ second ∈ acts :=
  ⟨h.subset (by simp), h.subset (by simp)⟩

theorem pushesLate_concat :
    PushesLate (acts ++ [a]) ↔
      PushesLate acts ∨ (∃ frame, a = .loop (.push frame)) ∧ .stop .endStream ∈ acts := by
  simp only [PushesLate, precedes_concat, exists_or, exists_and_right, eq_comm]

theorem lastMove?_concat :
    lastMove? (acts ++ [a]) = if a.isMove then some a else lastMove? acts := by
  rw [lastMove?, List.filter_append]
  split
  · next h => rw [List.filter_cons_of_pos h, List.filter_nil, List.getLast?_concat]
  · next h => rw [List.filter_cons_of_neg h, List.filter_nil, List.append_nil, lastMove?]

theorem mem_of_lastMove? (h : lastMove? acts = some a) : a ∈ acts ∧ a.isMove = true :=
  List.mem_filter.1 (List.mem_of_getLast? h)

/-- A pipeline that is told to play is told either to play or to halt last. -/
theorem lastMove?_cases (hplay : .loop .play ∈ acts) :
    lastMove? acts = some (.loop .play) ∨ lastMove? acts = some (.stop .halt) := by
  cases hlast : lastMove? acts with
  | none =>
    have hnil : acts.filter isMove = [] := List.getLast?_eq_none_iff.1 hlast
    have hmem : Act.loop .play ∈ acts.filter isMove := List.mem_filter.2 ⟨hplay, rfl⟩
    rw [hnil] at hmem
    cases hmem
  | some a =>
    have hmove := (mem_of_lastMove? hlast).2
    rw [isMove.eq_def] at hmove
    split at hmove
    · exact .inl rfl
    · exact .inr rfl
    · cases hmove

end Act

open Act

/-! ## Any engine -/

/-- The most actions that a loop takes to its end once it is told to quit and finds the queue
closed. -/
def LoopPoint.distance : LoopPoint → Nat
  | .play => 6
  | .failToPlay => 2
  | .raiseFlag => 5
  | .enter => 4
  | .askQuit => 3
  | .receive => 4
  | .pop => 3
  | .push _ => 4
  | .failOver => 5
  | .markFallback => 4
  | .markError => 3
  | .lowerFlag => 2
  | .leave => 1
  | .ended => 0

namespace StopPoint

variable {p q : StopPoint}

theorem eq_of_rank_eq (h : p.rank = q.rank) : p = q := by
  cases p <;> cases q <;> first | rfl | cases h

theorem rank_lt_succ : p.rank < q.rank + 1 ↔ p.rank < q.rank ∨ p = q := by
  rw [Nat.lt_succ_iff_lt_or_eq]
  exact or_congr Iff.rfl ⟨eq_of_rank_eq, congrArg rank⟩

end StopPoint

namespace Threads

section

variable {ρ π : Type} {s s' : Threads ρ π} {a : Act} {acts : List Act}

theorem afterEvent_ne_play (feed : Feed) (event : Event) : afterEvent feed event ≠ .play := by
  cases event with
  | needData =>
    rw [afterEvent]
    split <;> simp
  | _ => simp [afterEvent]

/-- Each thread keeps to its program: the stop has done what comes before the point where it stands,
and the loop plays at its beginning and never again. -/
structure InOrder (acts : List Act) (s : Threads ρ π) : Prop where
  stop : ∀ point, .stop point ∈ acts ↔ point.rank < s.stop.rank
  play : .loop .play ∈ acts ↔ s.loop ≠ .play

/-- What a stop has seen to by the point where it stands. -/
structure Seen (s : Threads ρ π) : Prop where
  quit : StopPoint.setQuit.rank < s.stop.rank → s.quit = true
  closed : StopPoint.closeQueue.rank < s.stop.rank → s.deck.queue.closed = true
  joined : StopPoint.join.rank < s.stop.rank → s.loop = .ended
  lowered : StopPoint.lowerFlag.rank < s.stop.rank → s.deck.status.playing = false
  stopped : StopPoint.markStopped.rank < s.stop.rank → s.state = .stopped

theorem Seen.le_join (h : Seen s) (hl : s.loop ≠ .ended) : s.stop.rank ≤ StopPoint.join.rank :=
  Nat.le_of_not_lt fun hlt => hl (h.joined hlt)

/-- A stop that has not yet joined the loop has not seen to what comes after. -/
theorem Seen.of_le (quit : StopPoint.setQuit.rank < s.stop.rank → s.quit = true)
    (closed : StopPoint.closeQueue.rank < s.stop.rank → s.deck.queue.closed = true)
    (hle : s.stop.rank ≤ StopPoint.join.rank) : Seen s := by
  have hearly {n : Nat} (hn : StopPoint.join.rank ≤ n) (hlt : n < s.stop.rank) : False :=
    absurd (Nat.lt_of_le_of_lt hn hlt) (Nat.not_lt.2 hle)
  exact ⟨quit, closed, fun hlt => (hearly (by decide) hlt).elim,
    fun hlt => (hearly (by decide) hlt).elim, fun hlt => (hearly (by decide) hlt).elim⟩

/-- The most actions of the two threads that are still to come. -/
def left (s : Threads ρ π) : Nat :=
  StopPoint.returned.rank - s.stop.rank + s.loop.distance

theorem left_le (s : Threads ρ π) : s.left ≤ 16 := by
  have hdistance : s.loop.distance ≤ 6 := by
    cases s.loop <;> simp [LoopPoint.distance]
  rw [left, StopPoint.rank]
  omega

variable [MediaEngine ρ π]

theorem InOrder.step (h : InOrder acts s) (hstep : Step s a s') : InOrder (acts ++ [a]) s' := by
  constructor
  · intro point
    rw [List.mem_append, List.mem_singleton, h.stop]
    cases hstep with
    | markStopping hs | disconnect hs | endStream hs _ | nothingToEnd hs _ | halt hs | setQuit hs
    | closeQueue hs | wake hs | join hs _ | lowerFlagAgain hs | markStopped hs =>
      -- one point further, and this one is behind
      rw [hs, Act.stop.injEq]
      exact StopPoint.rank_lt_succ.symm
    | _ => simp
  · rw [List.mem_append, List.mem_singleton, h.play]
    cases hstep with
    | askQuit hl =>
      simp [hl]
      split <;> simp
    | _ => simp [*, afterEvent_ne_play]

theorem Seen.step (h : Seen s) (hstep : Step s a s') : Seen s' := by
  cases hstep with
  | play hl _ | refuseToPlay hl _ | failToPlay hl | raiseFlag hl | enter hl | askQuit hl
  | receive hl _ | popClosed hl _ | deliver hl _ | refuse hl _ | failOver hl _
  | refuseToFailOver hl _ | markFallback hl | markError hl | lowerFlag hl | leave hl
  | hearNothing hl _ | findNothing hl _ =>
    -- a loop that acts has not been joined
    exact .of_le h.quit h.closed (h.le_join (by simp [hl]))
  | popFrame hl hpop =>
    -- a queue that has been closed hands out no frame
    refine .of_le h.quit (fun hlt => ?_) (h.le_join (by simp [hl]))
    rw [FrameQueue.pop_of_closed (h.closed hlt)] at hpop
    cases hpop
  | markStopping hs | disconnect hs | endStream hs _ | nothingToEnd hs _ | halt hs | setQuit hs
  | closeQueue hs | wake hs | join hs _ | lowerFlagAgain hs | markStopped hs =>
    obtain ⟨hquit, hclosed, hjoined, hlowered, -⟩ := h
    rw [hs] at hquit hclosed hjoined hlowered
    constructor <;> simp_all [StopPoint.rank, FrameQueue.close]
  | demand _ | arrive _ => exact ⟨h.quit, h.closed, h.joined, h.lowered, h.stopped⟩
  | submit frame =>
    refine ⟨h.quit, fun hlt => ?_, h.joined, h.lowered, h.stopped⟩
    rw [FrameQueue.closed_push]
    exact h.closed hlt

theorem distance_afterEvent (feed : Feed) (event : Event) :
    (afterEvent feed event).distance ≤ 3 := by
  cases event with
  | needData =>
    rw [afterEvent]
    split <;> decide
  | _ => simp [afterEvent, LoopPoint.distance]

/-- A loop that is told to quit and finds the queue closed comes nearer to its end with each of its
actions, and no other action takes it back. -/
theorem distance_step (hquit : s.quit = true) (hclosed : s.deck.queue.closed = true)
    (hstep : Step s a s') :
    s'.loop.distance + (if a.ofLoop then 1 else 0) ≤ s.loop.distance := by
  cases hstep with
  | popFrame hl hpop | findNothing hl hpop =>
    rw [FrameQueue.pop_of_closed hclosed] at hpop
    cases hpop
  | receive hl _ =>
    rw [hl]
    exact Nat.succ_le_succ (distance_afterEvent _ _)
  | _ => simp [*, Act.ofLoop, LoopPoint.distance]

/-- A loop that finds the queue closed never has to wait. -/
theorem exists_step_of_closed (hclosed : s.deck.queue.closed = true) (hl : s.loop ≠ .ended) :
    ∃ a s', a.ofLoop = true ∧ Step s a s' := by
  cases hloop : s.loop with
  | play =>
    rcases h : MediaEngine.play s.deck.rig with ⟨fault | _, rig⟩
    · exact ⟨_, _, rfl, .refuseToPlay hloop h⟩
    · exact ⟨_, _, rfl, .play hloop h⟩
  | receive =>
    cases h : s.pending with
    | nil => exact ⟨_, _, rfl, .hearNothing hloop h⟩
    | cons event rest => exact ⟨_, _, rfl, .receive hloop h⟩
  | pop => exact ⟨_, _, rfl, .popClosed hloop (FrameQueue.pop_of_closed hclosed)⟩
  | push frame =>
    rcases h : MediaEngine.push (s.feed.stamp frame) s.deck.rig with ⟨fault | _, rig⟩
    · exact ⟨_, _, rfl, .refuse hloop h⟩
    · exact ⟨_, _, rfl, .deliver hloop h⟩
  | failOver =>
    rcases h : MediaEngine.select .fallback s.deck.rig with ⟨fault | _, rig⟩
    · exact ⟨_, _, rfl, .refuseToFailOver hloop h⟩
    · exact ⟨_, _, rfl, .failOver hloop h⟩
  | failToPlay => exact ⟨_, _, rfl, .failToPlay hloop⟩
  | raiseFlag => exact ⟨_, _, rfl, .raiseFlag hloop⟩
  | enter => exact ⟨_, _, rfl, .enter hloop⟩
  | askQuit => exact ⟨_, _, rfl, .askQuit hloop⟩
  | markFallback => exact ⟨_, _, rfl, .markFallback hloop⟩
  | markError => exact ⟨_, _, rfl, .markError hloop⟩
  | lowerFlag => exact ⟨_, _, rfl, .lowerFlag hloop⟩
  | leave => exact ⟨_, _, rfl, .leave hloop⟩
  | ended => exact absurd hloop hl

/-- A stop never has to wait but for the loop. -/
theorem exists_step_of_stop (hs : s.stop ≠ .returned) (hjoin : s.stop = .join → s.loop = .ended) :
    ∃ a s', a.ofLoop = false ∧ Step s a s' ∧ s'.stop.rank = s.stop.rank + 1 ∧ s'.loop = s.loop := by
  cases hstop : s.stop with
  | markStopping => exact ⟨_, _, rfl, .markStopping hstop, rfl, rfl⟩
  | disconnect => exact ⟨_, _, rfl, .disconnect hstop, rfl, rfl⟩
  | endStream =>
    cases hlive : s.hasLive with
    | true => exact ⟨_, _, rfl, .endStream hstop hlive, rfl, rfl⟩
    | false => exact ⟨_, _, rfl, .nothingToEnd hstop hlive, rfl, rfl⟩
  | halt => exact ⟨_, _, rfl, .halt hstop, rfl, rfl⟩
  | setQuit => exact ⟨_, _, rfl, .setQuit hstop, rfl, rfl⟩
  | closeQueue => exact ⟨_, _, rfl, .closeQueue hstop, rfl, rfl⟩
  | wake => exact ⟨_, _, rfl, .wake hstop, rfl, rfl⟩
  | join => exact ⟨_, _, rfl, .join hstop (hjoin hstop), rfl, rfl⟩
  | lowerFlag => exact ⟨_, _, rfl, .lowerFlagAgain hstop, rfl, rfl⟩
  | markStopped => exact ⟨_, _, rfl, .markStopped hstop, rfl, rfl⟩
  | returned => exact absurd hstop hs

theorem rank_le_step (hstep : Step s a s') : s.stop.rank ≤ s'.stop.rank := by
  cases hstep <;> simp [*, StopPoint.rank]

/-- As long as a stop has not come to its end one of the threads can bring it nearer. -/
theorem Seen.exists_step (h : Seen s) (hs : s.stop ≠ .returned) :
    ∃ a s', Step s a s' ∧ s'.left < s.left := by
  -- only a stop that joins has to leave the next action to the loop
  by_cases hwait : s.stop = .join ∧ s.loop ≠ .ended
  · obtain ⟨hjoin, hl⟩ := hwait
    have hquit := h.quit (by rw [hjoin]; decide)
    have hclosed := h.closed (by rw [hjoin]; decide)
    obtain ⟨a, s', ha, hstep⟩ := exists_step_of_closed hclosed hl
    have hdistance := distance_step hquit hclosed hstep
    refine ⟨a, s', hstep, ?_⟩
    rw [left, left, stop_of_ofLoop hstep ha]
    rw [if_pos ha] at hdistance
    omega
  · have hjoin (hj : s.stop = .join) : s.loop = .ended :=
      Decidable.byContradiction fun hl => hwait ⟨hj, hl⟩
    obtain ⟨a, s', -, hstep, hrank, hl⟩ := exists_step_of_stop hs hjoin
    refine ⟨a, s', hstep, ?_⟩
    have hlt : s.stop.rank < StopPoint.returned.rank := by
      cases hp : s.stop <;> first | decide | exact absurd hp hs
    rw [left, left, hrank, hl]
    omega

/-- From wherever a stop stands it can come to its end. -/
theorem Seen.exists_run (h : Seen s) :
    ∃ acts s', acts.length ≤ s.left ∧ s.run acts = some s' ∧ s'.stop = .returned := by
  -- by induction on what is left at most
  induction hleft : s.left using Nat.strongRecOn generalizing s with
  | ind n ih =>
    by_cases hs : s.stop = .returned
    · exact ⟨[], s, Nat.zero_le _, run_nil s, hs⟩
    · obtain ⟨a, t, hstep, hlt⟩ := h.exists_step hs
      obtain ⟨acts, s', hlength, hrun, hend⟩ := ih t.left (hleft ▸ hlt) (h.step hstep) rfl
      refine ⟨a :: acts, s', ?_, run_cons.2 ⟨t, hstep, hrun⟩, hend⟩
      rw [List.length_cons]
      omega

/-- Whoever acts, a loop that a stop waits for takes no more than so many actions. -/
theorem Seen.countP_ofLoop_le (h : Seen s) (hjoin : StopPoint.join.rank ≤ s.stop.rank)
    (hrun : s.run acts = some s') :
    s'.loop.distance + acts.countP Act.ofLoop ≤ s.loop.distance := by
  suffices hall : Seen s' ∧ StopPoint.join.rank ≤ s'.stop.rank ∧
      s'.loop.distance + acts.countP Act.ofLoop ≤ s.loop.distance from hall.2.2
  refine run_induction (C := fun acts t => Seen t ∧ StopPoint.join.rank ≤ t.stop.rank ∧
    t.loop.distance + acts.countP Act.ofLoop ≤ s.loop.distance) ?_ ⟨h, hjoin, Nat.le_refl _⟩ hrun
  intro acts a t t' ht hstep
  obtain ⟨hseen, hrank, hle⟩ := ht
  refine ⟨hseen.step hstep, Nat.le_trans hrank (rank_le_step hstep), ?_⟩
  have hdistance := distance_step (hseen.quit (Nat.lt_of_lt_of_le (by decide) hrank))
    (hseen.closed (Nat.lt_of_lt_of_le (by decide) hrank)) hstep
  rw [List.countP_append, List.countP_singleton]
  omega

end

end Threads

end StandbyStream
