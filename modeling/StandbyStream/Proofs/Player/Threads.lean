import StandbyStream.Player
import StandbyStream.Proofs.Player.Steps

/-!
# The two threads of a stream

A player is read at rest, but a stream is played by two threads: one runs the loop, the other is
that of the player's owner, who may stop the stream at any time. Here both are taken apart into
actions. An action touches what the threads share once; between two actions of one thread anything
may happen in the other, the pipeline may raise a demand, and a producer may hand in a frame. A list
of actions in the order in which they happen is a schedule (`Threads.run`).
-/

namespace StandbyStream

/-- What the thread of the loop does next. -/
inductive LoopPoint where
  | play
  /-- The pipeline could not play. -/
  | failToPlay
  | raiseFlag
  | enter
  | askQuit
  | receive
  | pop
  | push (frame : Frame)
  /-- No frame came in time. -/
  | failOver
  | markFallback
  | markError
  | lowerFlag
  | leave
  | ended
  deriving DecidableEq, Repr

/-- What the thread that stops the stream does next. -/
inductive StopPoint where
  | markStopping
  | disconnect
  | endStream
  | halt
  | setQuit
  | closeQueue
  | wake
  /-- Waits for the loop to end. -/
  | join
  | lowerFlag
  | markStopped
  | returned
  deriving DecidableEq, Repr

/-- The place of a point in a stop. -/
def StopPoint.rank : StopPoint → Nat
  | .markStopping => 0
  | .disconnect => 1
  | .endStream => 2
  | .halt => 3
  | .setQuit => 4
  | .closeQueue => 5
  | .wake => 6
  | .join => 7
  | .lowerFlag => 8
  | .markStopped => 9
  | .returned => 10

/-- An action of one of the threads, or of something around them. -/
inductive Act where
  | loop (point : LoopPoint)
  | stop (point : StopPoint)
  /-- The loop waits no longer for an event or a frame. -/
  | expire
  /-- The pipeline raises a demand by itself. -/
  | demand
  /-- An event that was on its way arrives. -/
  | arrive (event : Event)
  | submit (frame : Frame)
  deriving DecidableEq, Repr

/-- The loop acts. -/
def Act.ofLoop : Act → Bool
  | .loop _ => true
  | .expire => true
  | _ => false

/-- The threads and what they share. -/
structure Threads (ρ π : Type) where
  deck : Deck ρ π
  state : State
  /-- Events that have not been received, the oldest first. -/
  pending : List Event
  quit : Bool
  feed : Feed
  /-- The pipeline has a live source. -/
  hasLive : Bool
  loop : LoopPoint
  stop : StopPoint

namespace Threads

variable {ρ π : Type} [MediaEngine ρ π]

/-- Where an event takes the loop. -/
def afterEvent (feed : Feed) : Event → LoopPoint
  | .needData => if feed.mode = .fallbackOnly ∨ feed.failedOver then .askQuit else .pop
  | .endOfStream => .lowerFlag
  | .warning .. => .askQuit
  | .error .. => .markError
  | .wake => .askQuit

/-- The next action of the loop, unless it has to wait. -/
def advance (s : Threads ρ π) : Option (Threads ρ π) :=
  match s.loop with
  | .play =>
    match MediaEngine.play s.deck.rig with
    | (.ok (), rig) => some { s with deck.rig := rig, loop := .raiseFlag }
    | (.error _, rig) => some { s with deck.rig := rig, loop := .failToPlay }
  | .failToPlay => some { s with deck.status.errorDetected := true, loop := .leave }
  | .raiseFlag => some { s with deck.status.playing := true, loop := .enter }
  | .enter =>
    some { s with state := if s.state = .built then .playing else s.state, loop := .askQuit }
  | .askQuit => some { s with loop := if s.quit then .lowerFlag else .receive }
  | .receive =>
    match s.pending with
    | [] => none
    | event :: rest => some { s with pending := rest, loop := afterEvent s.feed event }
  | .pop =>
    match s.deck.queue.pop with
    | (.frame frame, queue) => some { s with deck.queue := queue, loop := .push frame }
    | (.closed, _) => some { s with loop := .lowerFlag }
    | (.empty, _) => none
  | .push frame =>
    match s.feed.deliver frame s.deck with
    | (.fatal _, feed, deck) => some { s with feed, deck, loop := .markError }
    | (_, feed, deck) => some { s with feed, deck, loop := .askQuit }
  | .failOver =>
    match MediaEngine.select .fallback s.deck.rig with
    | (.ok (), rig) =>
      some { s with deck.rig := rig, feed.input := .fallback, loop := .markFallback }
    | (.error _, rig) => some { s with deck.rig := rig, loop := .markError }
  | .markFallback => some { s with deck.status.onFallback := true, loop := .askQuit }
  | .markError => some { s with deck.status.errorDetected := true, loop := .lowerFlag }
  | .lowerFlag => some { s with deck.status.playing := false, loop := .leave }
  | .leave => some { s with state := Loop.stateAfterEnd s.state, loop := .ended }
  | .ended => none

/-- The next action of the thread that stops the stream, unless it has to wait. -/
def takeDown (s : Threads ρ π) : Option (Threads ρ π) :=
  match s.stop with
  | .markStopping => some { s with state := .stopping, stop := .disconnect }
  | .disconnect =>
    some { s with deck.rig := MediaEngine.disconnectDemand s.deck.rig, stop := .endStream }
  | .endStream =>
    if s.hasLive then
      let (events, rig) := (MediaEngine.endOfStream s.deck.rig).2
      some { s with deck.rig := rig, pending := s.pending ++ events, stop := .halt }
    else some { s with stop := .halt }
  | .halt => some { s with deck.rig := (MediaEngine.halt s.deck.rig).2, stop := .setQuit }
  | .setQuit => some { s with quit := true, stop := .closeQueue }
  | .closeQueue => some { s with deck.queue := s.deck.queue.close, stop := .wake }
  | .wake => some { s with pending := s.pending ++ [.wake], stop := .join }
  | .join => if s.loop = .ended then some { s with stop := .lowerFlag } else none
  | .lowerFlag => some { s with deck.status.playing := false, stop := .markStopped }
  | .markStopped => some { s with state := .stopped, stop := .returned }
  | .returned => none

/-- The end of a wait. An event that is there is received, and a frame that is there is taken. -/
def expire (s : Threads ρ π) : Option (Threads ρ π) :=
  match s.loop with
  | .receive => if s.pending = [] then some { s with loop := .askQuit } else none
  | .pop =>
    match s.deck.queue.pop with
    | (.empty, _) => some { s with loop := .failOver }
    | _ => none
  | _ => none

/-- An action, if it is possible now. A thread acts only where it stands. -/
def act (s : Threads ρ π) : Act → Option (Threads ρ π)
  | .loop point => if s.loop = point then s.advance else none
  | .stop point => if s.stop = point then s.takeDown else none
  | .expire => s.expire
  | .demand =>
    (MediaEngine.raiseDemand? s.deck.rig).map fun rig =>
      { s with deck.rig := rig, pending := s.pending ++ [.needData] }
  | .arrive event => some { s with pending := s.pending ++ [event] }
  | .submit frame => some { s with deck.queue := (s.deck.queue.push frame).2 }

/-- One action after another, if each is possible when it is its turn. -/
def run (s : Threads ρ π) (acts : List Act) : Option (Threads ρ π) :=
  acts.foldlM act s

/-- The threads of a held pipeline, where a stop has not begun. -/
def ofHeld (p : Player ρ π) (held : Held π) (feed : Feed) (loop : LoopPoint) : Threads ρ π :=
  { deck := ⟨p.queue, p.status, ⟨held.pipeline, p.engine⟩⟩
    state := p.state
    pending := held.pending
    quit := p.quit
    feed
    hasLive := held.topology.liveSource?.isSome
    loop
    stop := .markStopping }

/-- The threads of a held pipeline when its loop has just been started. -/
def begin (p : Player ρ π) (held : Held π) : Threads ρ π :=
  ofHeld p held (.ofMode held.topology.mode) .play

variable {s s' s'' : Threads ρ π} {a : Act} {acts acts' : List Act}

/-! ## Single actions -/

/-- What an action does where it is possible. -/
inductive Step (s : Threads ρ π) : Act → Threads ρ π → Prop
  | play {rig : Rig ρ π} (hl : s.loop = .play) (h : MediaEngine.play s.deck.rig = (.ok (), rig)) :
      Step s (.loop .play) { s with deck.rig := rig, loop := .raiseFlag }
  | refuseToPlay {fault : Plain} {rig : Rig ρ π} (hl : s.loop = .play)
      (h : MediaEngine.play s.deck.rig = (.error fault, rig)) :
      Step s (.loop .play) { s with deck.rig := rig, loop := .failToPlay }
  | failToPlay (hl : s.loop = .failToPlay) :
      Step s (.loop .failToPlay) { s with deck.status.errorDetected := true, loop := .leave }
  | raiseFlag (hl : s.loop = .raiseFlag) :
      Step s (.loop .raiseFlag) { s with deck.status.playing := true, loop := .enter }
  | enter (hl : s.loop = .enter) :
      Step s (.loop .enter)
        { s with state := if s.state = .built then .playing else s.state, loop := .askQuit }
  | askQuit (hl : s.loop = .askQuit) :
      Step s (.loop .askQuit) { s with loop := if s.quit then .lowerFlag else .receive }
  | receive {event : Event} {rest : List Event} (hl : s.loop = .receive)
      (h : s.pending = event :: rest) :
      Step s (.loop .receive) { s with pending := rest, loop := afterEvent s.feed event }
  | popFrame {frame : Frame} {queue : FrameQueue} (hl : s.loop = .pop)
      (h : s.deck.queue.pop = (.frame frame, queue)) :
      Step s (.loop .pop) { s with deck.queue := queue, loop := .push frame }
  | popClosed {queue : FrameQueue} (hl : s.loop = .pop)
      (h : s.deck.queue.pop = (.closed, queue)) :
      Step s (.loop .pop) { s with loop := .lowerFlag }
  | deliver {frame : Frame} {rig : Rig ρ π} (hl : s.loop = .push frame)
      (h : MediaEngine.push (s.feed.stamp frame) s.deck.rig = (.ok (), rig)) :
      Step s (.loop (.push frame))
        { s with
          feed := { s.feed.timedFrom frame with delivered := s.feed.delivered + 1 }
          deck.rig := rig
          loop := .askQuit }
  | refuse {frame : Frame} {fault : FlowError} {rig : Rig ρ π} (hl : s.loop = .push frame)
      (h : MediaEngine.push (s.feed.stamp frame) s.deck.rig = (.error fault, rig)) :
      Step s (.loop (.push frame))
        { s with feed := s.feed.timedFrom frame, deck.rig := rig, loop := .markError }
  | failOver {rig : Rig ρ π} (hl : s.loop = .failOver)
      (h : MediaEngine.select .fallback s.deck.rig = (.ok (), rig)) :
      Step s (.loop .failOver)
        { s with deck.rig := rig, feed.input := .fallback, loop := .markFallback }
  | refuseToFailOver {fault : Plain} {rig : Rig ρ π} (hl : s.loop = .failOver)
      (h : MediaEngine.select .fallback s.deck.rig = (.error fault, rig)) :
      Step s (.loop .failOver) { s with deck.rig := rig, loop := .markError }
  | markFallback (hl : s.loop = .markFallback) :
      Step s (.loop .markFallback) { s with deck.status.onFallback := true, loop := .askQuit }
  | markError (hl : s.loop = .markError) :
      Step s (.loop .markError) { s with deck.status.errorDetected := true, loop := .lowerFlag }
  | lowerFlag (hl : s.loop = .lowerFlag) :
      Step s (.loop .lowerFlag) { s with deck.status.playing := false, loop := .leave }
  | leave (hl : s.loop = .leave) :
      Step s (.loop .leave) { s with state := Loop.stateAfterEnd s.state, loop := .ended }
  | markStopping (hs : s.stop = .markStopping) :
      Step s (.stop .markStopping) { s with state := .stopping, stop := .disconnect }
  | disconnect (hs : s.stop = .disconnect) :
      Step s (.stop .disconnect)
        { s with deck.rig := MediaEngine.disconnectDemand s.deck.rig, stop := .endStream }
  | endStream (hs : s.stop = .endStream) (h : s.hasLive = true) :
      Step s (.stop .endStream)
        { s with
          deck.rig := (MediaEngine.endOfStream s.deck.rig).2.2
          pending := s.pending ++ (MediaEngine.endOfStream s.deck.rig).2.1
          stop := .halt }
  | nothingToEnd (hs : s.stop = .endStream) (h : s.hasLive = false) :
      Step s (.stop .endStream) { s with stop := .halt }
  | halt (hs : s.stop = .halt) :
      Step s (.stop .halt) { s with deck.rig := (MediaEngine.halt s.deck.rig).2, stop := .setQuit }
  | setQuit (hs : s.stop = .setQuit) :
      Step s (.stop .setQuit) { s with quit := true, stop := .closeQueue }
  | closeQueue (hs : s.stop = .closeQueue) :
      Step s (.stop .closeQueue) { s with deck.queue := s.deck.queue.close, stop := .wake }
  | wake (hs : s.stop = .wake) :
      Step s (.stop .wake) { s with pending := s.pending ++ [.wake], stop := .join }
  | join (hs : s.stop = .join) (h : s.loop = .ended) :
      Step s (.stop .join) { s with stop := .lowerFlag }
  | lowerFlagAgain (hs : s.stop = .lowerFlag) :
      Step s (.stop .lowerFlag) { s with deck.status.playing := false, stop := .markStopped }
  | markStopped (hs : s.stop = .markStopped) :
      Step s (.stop .markStopped) { s with state := .stopped, stop := .returned }
  | hearNothing (hl : s.loop = .receive) (h : s.pending = []) :
      Step s .expire { s with loop := .askQuit }
  | findNothing {queue : FrameQueue} (hl : s.loop = .pop)
      (h : s.deck.queue.pop = (.empty, queue)) : Step s .expire { s with loop := .failOver }
  | demand {rig : Rig ρ π} (h : MediaEngine.raiseDemand? s.deck.rig = some rig) :
      Step s .demand { s with deck.rig := rig, pending := s.pending ++ [.needData] }
  | arrive (event : Event) : Step s (.arrive event) { s with pending := s.pending ++ [event] }
  | submit (frame : Frame) :
      Step s (.submit frame) { s with deck.queue := (s.deck.queue.push frame).2 }

/-- The actions of the loop, one for each point where it stands. -/
theorem step_of_advance (h : s.advance = some s') : Step s (.loop s.loop) s' := by
  rw [advance] at h
  cases hl : s.loop with
  | play =>
    simp only [hl] at h
    rcases hp : MediaEngine.play s.deck.rig with ⟨fault | _, rig⟩ <;> rw [hp] at h <;> cases h
    · exact .refuseToPlay hl hp
    · exact .play hl hp
  | receive =>
    simp only [hl] at h
    cases hp : s.pending with
    | nil => rw [hp] at h; cases h
    | cons event rest => rw [hp] at h; cases h; exact .receive hl hp
  | pop =>
    simp only [hl] at h
    rcases hp : s.deck.queue.pop with ⟨frame | _ | _, queue⟩ <;> rw [hp] at h <;> cases h
    · exact .popFrame hl hp
    · exact .popClosed hl hp
  | push frame =>
    simp only [hl, Feed.deliver_eq] at h
    rcases hp : MediaEngine.push (s.feed.stamp frame) s.deck.rig with ⟨fault | _, rig⟩ <;>
      rw [hp] at h <;> cases h
    · exact .refuse hl hp
    · exact .deliver hl hp
  | failOver =>
    simp only [hl] at h
    rcases hp : MediaEngine.select .fallback s.deck.rig with ⟨fault | _, rig⟩ <;>
      rw [hp] at h <;> cases h
    · exact .refuseToFailOver hl hp
    · exact .failOver hl hp
  | ended =>
    simp only [hl] at h
    cases h
  | _ =>
    simp only [hl] at h
    cases h
    constructor
    exact hl

theorem step_of_takeDown (h : s.takeDown = some s') : Step s (.stop s.stop) s' := by
  rw [takeDown] at h
  cases hs : s.stop with
  | endStream =>
    simp only [hs] at h
    split at h <;> cases h
    · next hlive => exact .endStream hs hlive
    · next hlive => exact .nothingToEnd hs (Bool.eq_false_iff.2 hlive)
  | join =>
    simp only [hs] at h
    split at h <;> cases h
    next hl => exact .join hs hl
  | returned =>
    simp only [hs] at h
    cases h
  | _ =>
    simp only [hs] at h
    cases h
    constructor
    exact hs

theorem step_of_expire (h : s.expire = some s') : Step s .expire s' := by
  rw [expire] at h
  split at h
  · next hl =>
    split at h <;> cases h
    next hp => exact .hearNothing hl hp
  · next hl =>
    split at h <;> cases h
    next hp => exact .findNothing hl hp
  · cases h

/-- `Step` tells what the possible actions do. -/
theorem act_eq_some : s.act a = some s' ↔ Step s a s' := by
  constructor
  · intro h
    cases a with
    | loop point =>
      rw [act] at h
      split at h
      · next hl => exact hl ▸ step_of_advance h
      · cases h
    | stop point =>
      rw [act] at h
      split at h
      · next hs => exact hs ▸ step_of_takeDown h
      · cases h
    | expire => exact step_of_expire h
    | demand =>
      obtain ⟨rig, hr, rfl⟩ := Option.map_eq_some_iff.1 h
      exact .demand hr
    | arrive event => cases h; exact .arrive event
    | submit frame => cases h; exact .submit frame
  · intro h
    cases h <;> simp_all [act, advance, takeDown, expire, Feed.deliver_eq]

theorem stop_of_ofLoop (hstep : Step s a s') (ha : a.ofLoop = true) : s'.stop = s.stop := by
  cases hstep <;> first | rfl | cases ha

theorem hasLive_step (h : Step s a s') : s'.hasLive = s.hasLive := by
  cases h <;> rfl

/-! ## Schedules -/

theorem run_nil (s : Threads ρ π) : s.run [] = some s :=
  rfl

theorem run_cons : s.run (a :: acts) = some s' ↔ ∃ t, Step s a t ∧ t.run acts = some s' := by
  simp only [run, List.foldlM_cons, Option.bind_eq_bind, Option.bind_eq_some_iff, act_eq_some]

theorem run_append (h : s.run acts = some s') (h' : s'.run acts' = some s'') :
    s.run (acts ++ acts') = some s'' := by
  rw [run, List.foldlM_append]
  change (s.run acts).bind (·.run acts') = some s''
  rw [h, Option.bind_some, h']

theorem run_single (h : Step s a s') : s.run [a] = some s' :=
  run_cons.2 ⟨s', h, run_nil s'⟩

/-- What each of a list of partial steps preserves holds once all have been taken. -/
theorem foldlM_induction {α σ : Type} {f : σ → α → Option σ} {C : List α → σ → Prop}
    (step : ∀ {xs x s s'}, C xs s → f s x = some s' → C (xs ++ [x]) s') {s s' : σ} {xs : List α}
    (begun : C [] s) (h : xs.foldlM f s = some s') : C xs s' := by
  -- what has been done before is carried along
  suffices hfrom : ∀ {xs prior : List α} {s s' : σ}, C prior s →
      xs.foldlM f s = some s' → C (prior ++ xs) s' from hfrom begun h
  intro xs
  induction xs with
  | nil =>
    intro prior s s' hs hrun
    cases hrun
    rwa [List.append_nil]
  | cons x xs ih =>
    intro prior s s' hs hrun
    rw [List.foldlM_cons] at hrun
    obtain ⟨t, ht, hrest⟩ := Option.bind_eq_some_iff.1 hrun
    have := ih (step hs ht) hrest
    rwa [List.append_assoc, List.singleton_append] at this

/-- What every action preserves holds at the end of a schedule. -/
theorem run_induction {C : List Act → Threads ρ π → Prop}
    (step : ∀ {acts a s s'}, C acts s → Step s a s' → C (acts ++ [a]) s') (begun : C [] s)
    (h : s.run acts = some s') : C acts s' :=
  foldlM_induction (fun hs ha => step hs (act_eq_some.1 ha)) begun h

end Threads

end StandbyStream
