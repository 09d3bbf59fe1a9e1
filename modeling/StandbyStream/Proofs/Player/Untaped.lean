import StandbyStream.Proofs.Engine.Tape
import StandbyStream.Proofs.Player.Run

/-!
# A player does not notice the tape

A player whose engine is on a tape does what it does without the tape: taking the tape off
commutes with every function of the feed, of the loop and of the player, and so with every action
(`act_untaped`). The answers are the same as well (`build_untaped`, `start_untaped`).
-/

namespace StandbyStream

variable {ρ π : Type}

/-! ## Off the tape -/

/-- A deck without the tape. -/
def Deck.untaped (deck : Deck (Tape ρ) (Taped π)) : Deck ρ π :=
  ⟨deck.queue, deck.status, deck.rig.untaped⟩

/-- A loop without the tape. -/
def Loop.untaped (l : Loop (Tape ρ) (Taped π)) : Loop ρ π :=
  ⟨l.patience, l.deck.untaped, l.state, l.feed, l.pending, l.phase, l.quit⟩

/-- A held pipeline without the tape. -/
def Held.untaped (held : Held (Taped π)) : Held π :=
  ⟨held.topology, held.pipeline.pipeline, held.pending, held.running⟩

/-- A player without the tape. -/
def Player.untaped (p : Player (Tape ρ) (Taped π)) : Player ρ π :=
  ⟨p.engine.engine, p.patience, p.queue, p.status, p.state, p.held.map Held.untaped, p.quit⟩

/-- An action on an engine that is on a tape. -/
def Player.Action.onTape : Player.Action ρ → Player.Action (Tape ρ)
  | .build request => .build request
  | .start => .start
  | .stop => .stop
  | .submit frame => .submit frame
  | .post event => .post event
  | .alter change => .alter (Tape.alter change)

namespace Player

theorem held_untaped_none {p : Player (Tape ρ) (Taped π)} (hh : p.held = none) :
    p.untaped.held = none := by
  rw [untaped.eq_def, hh]
  rfl

theorem held_untaped_some {p : Player (Tape ρ) (Taped π)} {held : Held (Taped π)}
    (hh : p.held = some held) :
    p.untaped.held = some held.untaped := by
  rw [untaped.eq_def, hh]
  rfl

theorem isStarted_untaped (p : Player (Tape ρ) (Taped π)) :
    p.untaped.isStarted = p.isStarted := by
  cases hh : p.held <;> simp [isStarted, untaped, hh, Held.untaped]

theorem loopEnded_untaped (p : Player (Tape ρ) (Taped π)) :
    p.untaped.loopEnded = p.loopEnded := by
  cases hh : p.held <;> simp [loopEnded, untaped, hh, Held.untaped]

theorem askToQuit_untaped (p : Player (Tape ρ) (Taped π)) :
    p.untaped.askToQuit = p.askToQuit.untaped := by
  cases hh : p.held <;> simp [askToQuit, untaped, hh, Held.untaped]

end Player

variable [MediaEngine ρ π]

/-! ## Calls -/

namespace Rig

variable {rig rig' : Rig (Tape ρ) (Taped π)}

theorem play_untaped {answer : Except Plain Unit} (h : MediaEngine.play rig = (answer, rig')) :
    MediaEngine.play rig.untaped = (answer, rig'.untaped) := by
  cases h
  rfl

theorem push_untaped {buffer : Buffer} {answer : Except FlowError Unit}
    (h : MediaEngine.push buffer rig = (answer, rig')) :
    MediaEngine.push buffer rig.untaped = (answer, rig'.untaped) := by
  cases h
  rfl

theorem select_untaped {input : Input} {answer : Except Plain Unit}
    (h : MediaEngine.select input rig = (answer, rig')) :
    MediaEngine.select input rig.untaped = (answer, rig'.untaped) := by
  cases h
  rfl

theorem raiseDemand_untaped (rig : Rig (Tape ρ) (Taped π)) :
    MediaEngine.raiseDemand? rig.untaped =
      (MediaEngine.raiseDemand? rig).map untaped := by
  show _ = Option.map untaped (Option.map _ (MediaEngine.raiseDemand? rig.untaped))
  rw [Option.map_map]
  exact Option.map_id'.symm

end Rig

/-! ## The feed -/

namespace Feed

variable (feed : Feed) (deck : Deck (Tape ρ) (Taped π))

theorem trip_untaped :
    feed.trip deck.untaped =
      ((feed.trip deck).1, (feed.trip deck).2.1, (feed.trip deck).2.2.untaped) := by
  by_cases hf : feed.failedOver = true
  · have e : ∀ {ρ π : Type} [MediaEngine ρ π] (deck : Deck ρ π),
        feed.trip deck = (.ok false, feed, deck) := fun _ => if_pos hf
    rw [e, e]
  · cases hs : MediaEngine.select .fallback deck.rig with
    | mk answer rig =>
        have hs' : MediaEngine.select .fallback deck.untaped.rig = (answer, rig.untaped) :=
          Rig.select_untaped hs
        rw [trip.eq_def, trip.eq_def, if_neg hf, if_neg hf, hs, hs']
        cases answer <;> rfl

theorem deliver_untaped (frame : Frame) :
    feed.deliver frame deck.untaped =
      ((feed.deliver frame deck).1, (feed.deliver frame deck).2.1,
        (feed.deliver frame deck).2.2.untaped) := by
  cases hs : MediaEngine.push (feed.stamp frame) deck.rig with
  | mk answer rig =>
      have hs' : MediaEngine.push (feed.stamp frame) deck.untaped.rig = (answer, rig.untaped) :=
        Rig.push_untaped hs
      rw [deliver_eq, deliver_eq, hs, hs']
      cases answer <;> rfl

theorem pull_untaped (patience : Patience) :
    feed.pull patience deck.untaped =
      ((feed.pull patience deck).1, (feed.pull patience deck).2.1,
        (feed.pull patience deck).2.2.untaped) := by
  by_cases live : feed.Idle
  · rw [pull_of_idle live, pull_of_idle live]
  rw [pull_of_live live, pull_of_live live]
  have hq : deck.untaped.queue = deck.queue := rfl
  rw [hq]
  rcases deck.queue.pop with ⟨frame | - | -, queue⟩
  · exact deliver_untaped feed { deck with queue } frame
  · cases patience with
    | lasting => rfl
    | brief =>
        simp only [trip_untaped]
        rcases feed.trip deck with ⟨fault | done, feed', deck'⟩ <;> rfl
  · rfl

end Feed

/-! ## The loop -/

namespace Loop

theorem pull_untaped (l : Loop (Tape ρ) (Taped π)) : l.untaped.pull = l.pull.untaped := by
  have h : l.untaped.feed.pull l.untaped.patience l.untaped.deck = _ :=
    Feed.pull_untaped l.feed l.deck l.patience
  rw [pull.eq_def, h, pull.eq_def]
  rcases l.feed.pull l.patience l.deck with ⟨outcome, feed, deck⟩
  cases outcome <;> rfl

theorem handle_untaped (l : Loop (Tape ρ) (Taped π)) (event : Event) :
    l.untaped.handle event = (l.handle event).untaped := by
  cases event with
  | needData => exact pull_untaped l
  | endOfStream => rfl
  | warning source message => rfl
  | error source message => rfl
  | wake => rfl

theorem handleAll_untaped (events : List Event) (l : Loop (Tape ρ) (Taped π)) :
    l.untaped.handleAll events = (l.handleAll events).untaped := by
  induction events generalizing l with
  | nil => rfl
  | cons event rest ih =>
      rw [handleAll.eq_def, handleAll.eq_def]
      simp only [handle_untaped]
      generalize l.handle event = l'
      have hp : l'.untaped.phase = l'.phase := rfl
      have hq : l'.untaped.quit = l'.quit := rfl
      rw [hp, hq]
      cases l'.phase with
      | listening =>
          simp only
          split
          · rfl
          · exact ih l'
      | pulling => rfl
      | ended => rfl

theorem serveDemand_untaped (count : Nat) (l : Loop (Tape ρ) (Taped π)) :
    l.untaped.serveDemand count = (l.serveDemand count).untaped := by
  induction count generalizing l with
  | zero => rfl
  | succ count ih =>
      rw [serveDemand.eq_def, serveDemand.eq_def]
      have hp : l.untaped.phase = l.phase := rfl
      have hd : MediaEngine.raiseDemand? l.untaped.deck.rig = _ :=
        Rig.raiseDemand_untaped l.deck.rig
      simp only [hp, hd]
      cases l.phase with
      | listening =>
          cases MediaEngine.raiseDemand? l.deck.rig with
          | none => rfl
          | some rig =>
              have e := pull_untaped { l with deck := { l.deck with rig } }
              have ih' := ih (pull { l with deck := { l.deck with rig } })
              rw [← e] at ih'
              exact ih'
      | pulling => rfl
      | ended => rfl

theorem resume_untaped (l : Loop (Tape ρ) (Taped π)) : l.untaped.resume = l.resume.untaped := by
  rw [resume.eq_def, resume.eq_def]
  have hp : l.untaped.phase = l.phase := rfl
  rw [hp]
  cases l.phase with
  | pulling =>
      simp only [pull_untaped]
      generalize l.pull = l'
      have hc : (l'.untaped.phase = .listening ∧ l'.untaped.quit = true) =
          (l'.phase = .listening ∧ l'.quit = true) := rfl
      simp only [hc]
      split <;> rfl
  | listening => rfl
  | ended => rfl

theorem settle_untaped (l : Loop (Tape ρ) (Taped π)) : l.untaped.settle = l.settle.untaped := by
  rw [settle.eq_def, settle.eq_def]
  simp only [resume_untaped]
  generalize l.resume = l'
  have hp : l'.untaped.phase = l'.phase := rfl
  rw [hp]
  cases l'.phase with
  | listening =>
      simp only
      have he : l'.untaped.pending = l'.pending := rfl
      rw [he, handleAll_untaped]
      exact serveDemand_untaped _ _
  | pulling => exact serveDemand_untaped _ _
  | ended => exact serveDemand_untaped _ _

theorem begin_untaped (l : Loop (Tape ρ) (Taped π)) : l.untaped.begin = l.begin.untaped := by
  cases hs : MediaEngine.play l.deck.rig with
  | mk answer rig =>
      have hs' : MediaEngine.play l.untaped.deck.rig = (answer, rig.untaped) :=
        Rig.play_untaped hs
      rw [begin.eq_def, begin.eq_def, hs, hs']
      cases answer <;> rfl

end Loop

/-! ## The player -/

namespace Player

variable (p : Player (Tape ρ) (Taped π))

theorem settle_untaped : p.untaped.settle = p.settle.untaped := by
  cases hh : p.held with
  | none =>
      have hu := held_untaped_none hh
      rw [settle_of_held_none hh, settle_of_held_none hu]
  | some held =>
      have hu := held_untaped_some hh
      cases hr : held.running with
      | none => rw [settle_of_unstarted hh hr, settle_of_unstarted hu hr]
      | some running =>
          have hl : p.untaped.loop held.untaped running = (p.loop held running).untaped := rfl
          rw [settle_of_running hh hr, settle_of_running hu hr, hl, Loop.settle_untaped]
          rfl

theorem build_untaped (request : BuildRequest) :
    p.untaped.build request = ((p.build request).1, (p.build request).2.untaped) := by
  rw [build.eq_def, build.eq_def, isStarted_untaped]
  have hs : p.untaped.state = p.state := rfl
  rw [hs]
  split
  · rfl
  simp only
  cases Topology.build request with
  | error cause => rfl
  | ok t =>
      simp only
      have hf : checkFactories p.untaped.engine t = checkFactories p.engine t := rfl
      rw [hf]
      cases checkFactories p.engine t with
      | error cause => rfl
      | ok _ =>
          simp only
          have hi : MediaEngine.instantiate t p.engine = Tape.instantiate t p.engine := rfl
          rw [hi, Tape.instantiate.eq_def]
          have he : p.untaped.engine = p.engine.engine := rfl
          rw [he]
          rcases MediaEngine.instantiate t p.engine.engine with ⟨fault | pipeline, engine⟩ <;> rfl

theorem start_untaped : p.untaped.start = (p.start.1, p.start.2.untaped) := by
  cases hh : p.held with
  | none =>
      have hu := held_untaped_none hh
      rw [start.eq_def, start.eq_def, hh, hu]
  | some held =>
      have hu := held_untaped_some hh
      rw [start.eq_def, start.eq_def, hh, hu]
      have hr : held.untaped.running = held.running := rfl
      simp only [hr]
      cases held.running with
      | some running => rfl
      | none =>
          have hl : p.untaped.loop held.untaped ⟨.ofMode held.topology.mode, .listening⟩ =
              (p.loop held ⟨.ofMode held.topology.mode, .listening⟩).untaped := rfl
          have hm : held.untaped.topology = held.topology := rfl
          simp only [hm, hl, Loop.begin_untaped]
          rw [← settle_untaped]
          rfl

theorem takeDown_untaped (held : Held (Taped π)) :
    p.untaped.takeDown held.untaped = (p.takeDown held).untaped := by
  rw [takeDown.eq_def, takeDown.eq_def]
  have hc : (held.untaped.running.isSome = true ∧ held.untaped.topology.liveSource?.isSome = true) =
      (held.running.isSome = true ∧ held.topology.liveSource?.isSome = true) := rfl
  simp only [hc]
  split <;> rfl

theorem runOut_untaped (held : Held (Taped π)) :
    p.untaped.runOut held.untaped = (p.runOut held).untaped := by
  rw [runOut, runOut, ← settle_untaped, ← askToQuit_untaped, ← takeDown_untaped]
  rfl

theorem stop_untaped : p.untaped.stop = p.stop.untaped := by
  cases hh : p.held with
  | none =>
      have hu := held_untaped_none hh
      rw [stop_of_held_none hh, stop_of_held_none hu]
      simp only [untaped, hh, Option.map_none]
  | some held =>
      have hu := held_untaped_some hh
      rw [stop_of_held hh, stop_of_held hu, runOut_untaped]
      rfl

theorem post_untaped (event : Event) :
    p.untaped.post event = ((p.post event).1, (p.post event).2.untaped) := by
  cases hh : p.held with
  | none =>
      have hu := held_untaped_none hh
      rw [post.eq_def, post.eq_def, hh, hu]
  | some held =>
      have hu := held_untaped_some hh
      rw [post.eq_def, post.eq_def, hh, hu, loopEnded_untaped]
      simp only
      split
      · rfl
      · simp only [← settle_untaped]
        rfl

/-- Taking the tape off commutes with every action. -/
theorem act_untaped (a : Action ρ) : p.untaped.act a = (p.act a.onTape).untaped := by
  cases a with
  | build request => exact congrArg Prod.snd (build_untaped p request)
  | start => exact congrArg Prod.snd (start_untaped p)
  | stop => exact stop_untaped p
  | submit frame => exact settle_untaped { p with queue := (p.queue.push frame).2 }
  | post event => exact congrArg Prod.snd (post_untaped p event)
  | alter change => exact settle_untaped { p with engine := Tape.alter change p.engine }

end Player

end StandbyStream
