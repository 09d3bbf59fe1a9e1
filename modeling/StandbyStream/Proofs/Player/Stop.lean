import StandbyStream.Engine.Simulator
import StandbyStream.Proofs.Player.Agreement
import StandbyStream.Proofs.Player.Rest

/-!
# Stops

A stop takes the pipeline down, closes the queue, tells the loop to quit and waits for it. Whatever
the loop was doing, it ends with the next thing that it handles (`Loop.settle_of_quit`): a pull that
waits finds the queue closed, and the events behind it are dropped. So every stop comes to its end,
and it leaves nothing behind but the flags of the stream (`Player.stop_of_run`). Only an error that
the pipeline raises while it is taken down can be noted by a stop; the engines at hand raise none
(`EndsQuietly`).
-/

namespace StandbyStream

/-- The event is an error. -/
def Event.isError : Event → Bool
  | .error .. => true
  | _ => false

/-- No pipeline of the engine answers the end of its live input with an error. -/
def EndsQuietly (ρ : Type) {π : Type} [MediaEngine ρ π] : Prop :=
  ∀ rig : Rig ρ π, ∀ event ∈ (MediaEngine.endOfStream rig).2.1, event.isError = false

theorem Recorder.endsQuietly : EndsQuietly Recorder := by
  intro rig event hm
  cases hm

/-- The simulator raises nothing but the end of the stream. -/
theorem Simulator.endsQuietly : EndsQuietly Simulator := by
  intro rig event hm
  change event ∈ (Simulator.endOfStream rig).2.1 at hm
  rw [Simulator.endOfStream.eq_def] at hm
  split at hm
  · cases hm
  split at hm
  · cases hm
  split at hm
  · cases hm
  simp only at hm
  split at hm
  · cases List.mem_singleton.1 hm
    rfl
  · cases hm

variable {ρ π : Type} [MediaEngine ρ π]

/-- An engine on a tape raises what it raises off it. -/
theorem EndsQuietly.onTape (h : EndsQuietly ρ) : EndsQuietly (Tape ρ) :=
  fun rig => h rig.untaped

namespace Loop

variable {l : Loop ρ π}

/-! ## Loops that are told to quit -/

theorem serveDemand_of_ended (off : l.phase = .ended) (count : Nat) : l.serveDemand count = l := by
  cases count with
  | zero => rfl
  | succ count =>
      rw [serveDemand.eq_def]
      simp only [off]

theorem settle_of_ended (off : l.phase = .ended) : l.settle = l := by
  have hr : l.resume = l := by
    rw [resume.eq_def]
    simp only [off]
  rw [settle.eq_def, hr]
  simp only [off]
  exact serveDemand_of_ended off _

/-- With the queue closed, one event is all that a loop handles before it quits. -/
theorem handleAll_of_quit (on : l.phase = .listening) (hquit : l.quit = true)
    (hclosed : l.deck.queue.closed = true) (event : Event) (rest : List Event) :
    l.handleAll (event :: rest) = l.finish event.isError := by
  rw [handleAll.eq_def]
  simp only
  cases event with
  | endOfStream => rfl
  | error source message => rfl
  | warning source message =>
      simp only [handle.eq_def, on, hquit]
      rfl
  | wake =>
      simp only [handle.eq_def, on, hquit]
      rfl
  | needData =>
      by_cases idle : l.feed.Idle
      · have hpull : l.handle .needData = { l with phase := .listening } := pull_of_idle idle
        rw [hpull]
        exact (if_pos hquit).trans rfl
      · simp only [handle.eq_def, pull_of_closed idle hclosed]
        rfl

/-- With the queue closed, a pull that has been waiting ends the loop that is told to quit. -/
theorem resume_of_quit (on : l.phase = .pulling) (hquit : l.quit = true)
    (hclosed : l.deck.queue.closed = true) : l.resume = l.finish false := by
  rw [resume.eq_def]
  simp only [on]
  by_cases idle : l.feed.Idle
  · rw [pull_of_idle idle]
    exact (if_pos ⟨rfl, hquit⟩).trans rfl
  · rw [pull_of_closed idle hclosed]
    rfl

/-- A loop that is told to quit and finds the queue closed ends with the next thing that it handles:
the pull that waits, or the first of the events. -/
theorem settle_of_quit (hquit : l.quit = true) (hclosed : l.deck.queue.closed = true)
    (hp : l.pending ≠ []) :
    l.settle =
      if l.phase = .ended then l
      else l.finish (l.phase == .listening && l.pending.head?.any Event.isError) := by
  cases on : l.phase with
  | ended => exact settle_of_ended on
  | pulling =>
      rw [settle.eq_def, resume_of_quit on hquit hclosed]
      exact serveDemand_of_ended rfl _
  | listening =>
      have hr : l.resume = l := by
        rw [resume.eq_def]
        simp only [on]
      obtain ⟨event, rest, hpending⟩ := List.exists_cons_of_ne_nil hp
      rw [settle.eq_def, hr]
      simp only [on, hpending, handleAll_of_quit on hquit hclosed]
      exact serveDemand_of_ended rfl _

end Loop

namespace Player

variable {p : Player ρ π} {held : Held π}

/-! ## The loop runs out -/

/-- The events with which a pipeline answers that it is taken down. -/
def raised (p : Player ρ π) (held : Held π) : List Event :=
  if held.running.isSome ∧ held.topology.liveSource?.isSome then
    (MediaEngine.endOfStream (MediaEngine.disconnectDemand ⟨held.pipeline, p.engine⟩)).2.1
  else []

/-- The loop listens, and the first event that it gets to handle is an error. -/
def alarmed (p : Player ρ π) (held : Held π) : Bool :=
  held.running.any (·.phase == .listening) &&
    (held.pending ++ p.raised held ++ [Event.wake]).head?.any Event.isError

/-- What the loop finds when it is told to quit. -/
theorem askedToQuit_end (p : Player ρ π) (held : Held π) :
    let asked := p.askedToQuit held
    asked.quit = true ∧ asked.queue = p.queue.close ∧ asked.status = p.status ∧
      ∃ held', asked.held = some held' ∧ held'.running = held.running ∧
        held'.pending = held.pending ++ p.raised held ++ [.wake] := by
  rw [askedToQuit, takeDown.eq_def, raised]
  split
  · exact ⟨rfl, rfl, rfl, _, rfl, rfl, rfl⟩
  · exact ⟨rfl, rfl, rfl, _, rfl, rfl, rfl⟩

/-- When the loop has run out it does not run any more, and the queue is closed. What is on air is
as it was, and so is the mark for errors, unless the loop was alarmed. -/
theorem runOut_end (p : Player ρ π) (held : Held π) :
    (p.runOut held).loopRuns = false ∧ (p.runOut held).queue = p.queue.close ∧
      (p.runOut held).status.onFallback = p.status.onFallback ∧
      (p.runOut held).status.errorDetected = (p.status.errorDetected || p.alarmed held) := by
  obtain ⟨hquit, hqueue, hstatus, held', hh', hr', hpending⟩ := p.askedToQuit_end held
  rw [runOut_eq]
  generalize p.askedToQuit held = asked at *
  rw [alarmed, ← hqueue, ← hstatus, ← hpending]
  cases hr : held.running with
  | none =>
      rw [hr] at hr'
      rw [settle_of_unstarted hh' hr']
      simp [loopRuns, hh', hr']
  | some running =>
      rw [hr] at hr'
      have hclosed : asked.queue.closed = true := congrArg FrameQueue.closed hqueue
      have hsome : held'.pending ≠ [] := by simp [hpending]
      have hs : (asked.loop held' running).settle = _ := Loop.settle_of_quit hquit hclosed hsome
      rw [settle_of_running hh' hr', hs]
      split
      · next off =>
          -- the loop had ended before, and nothing happens to it any more
          have hended : running.phase = .ended := off
          simp [loopRuns, withLoop, loop, hended]
      · simp [loopRuns, withLoop, loop, Loop.finish]

/-- At rest no event is left in front of those that the pipeline raises while it is taken down. -/
theorem CaughtUp.not_alarmed (h : p.CaughtUp) (hquiet : EndsQuietly ρ) (hh : p.held = some held) :
    p.alarmed held = false := by
  have hraised : ∀ event ∈ p.raised held ++ [Event.wake], event.isError = false := by
    intro event hm
    rcases List.mem_append.1 hm with hm | hm
    · rw [raised] at hm
      split at hm
      · exact hquiet _ event hm
      · cases hm
    · cases List.mem_singleton.1 hm
      rfl
  rw [alarmed]
  cases hr : held.running with
  | none => rfl
  | some running =>
      by_cases on : running.phase = .listening
      · have hpending : held.pending = [] := by
          apply h held running hh hr
          intro hp
          have hp' : running.phase = .pulling := hp
          rw [on] at hp'
          cases hp'
        rw [hpending, List.nil_append]
        cases hfirst : p.raised held ++ [Event.wake] with
        | nil => simp
        | cons event rest =>
            have hevent : event.isError = false := by
              apply hraised
              rw [hfirst]
              exact List.mem_cons_self
            simp [hevent]
      · simp [on]

/-! ## What a stop leaves behind -/

theorem playing_stop (p : Player ρ π) : p.stop.status.playing = false := by
  cases hh : p.held with
  | none => rw [stop_of_held_none hh]
  | some held => rw [stop_of_held hh]

/-- A stop does not change what is on air. -/
theorem onFallback_stop (p : Player ρ π) : p.stop.status.onFallback = p.status.onFallback := by
  cases hh : p.held with
  | none => rw [stop_of_held_none hh]
  | some held =>
      rw [stop_of_held hh]
      exact (p.runOut_end held).2.2.1

/-- A stop notes no error. -/
theorem CaughtUp.errorDetected_stop (h : p.CaughtUp) (hquiet : EndsQuietly ρ) :
    p.stop.status.errorDetected = p.status.errorDetected := by
  cases hh : p.held with
  | none => rw [stop_of_held_none hh]
  | some held =>
      obtain ⟨-, -, -, herror⟩ := p.runOut_end held
      rw [h.not_alarmed hquiet hh, Bool.or_false] at herror
      rw [stop_of_held hh]
      exact herror

theorem queue_stop (hh : p.held = some held) : p.stop.queue = p.queue.close := by
  rw [stop_of_held hh]
  exact (p.runOut_end held).2.1

/-- Once is enough. -/
theorem stop_stop (p : Player ρ π) : p.stop.stop = p.stop := by
  rw [stop_of_held_none p.held_stop]
  cases hh : p.held with
  | none =>
      rw [stop_of_held_none hh]
      by_cases hu : p.state = .unbuilt
      · simp [hu]
      · simp [hu]
  | some held =>
      rw [stop_of_held hh]
      rfl

/-- The state of a stream that has been stopped tells whether it was ever built. -/
theorem Situation.state_stop {ledger : Ledger} (h : Situation ledger p) :
    p.stop.state = if ledger.built then .stopped else .unbuilt := by
  cases h with
  | fresh hh state => rw [stop_of_held_none hh, if_pos state]; rfl
  | built hh => rw [stop_of_held hh]; rfl
  | started hh => rw [stop_of_held hh]; rfl
  | stopped hh state => rw [stop_of_held_none hh, state]; rfl
  | forfeited hh state => rw [stop_of_held_none hh, state]; rfl

/-! ## Frames that come too late -/

/-- A build that has succeeded among turns is not taken back. -/
theorem built_ledgerOf {ledger : Ledger} (h : ledger.built = true) (p : Player ρ π)
    (turns : List (Turn ρ)) : (p.ledgerOf ledger turns).built = true := by
  induction turns generalizing p ledger with
  | nil => exact h
  | cons turn turns ih => exact ih (built_ledgerAfter h p turn) (p.take turn)

/-- Without a pipeline a turn other than a build that succeeds does nothing but submit its frame. -/
theorem take_of_held_none (hh : p.held = none) {ledger : Ledger} {turn : Turn ρ}
    (hn : (p.ledgerAfter ledger turn).built = false) :
    (p.take turn).held = none ∧
      (p.take turn).queue = (turn.frame?.elim p.queue fun frame => (p.queue.push frame).2) := by
  cases turn with
  | expiry =>
      rw [take, expire_of_held_none hh]
      exact ⟨hh, rfl⟩
  | action a =>
      cases a with
      | build request =>
          have hend := build_end p request
          rw [ledgerAfter] at hn
          rw [take, act]
          generalize p.build request = result at hend hn
          cases hend with
          | refused => exact ⟨hh, rfl⟩
          | failed => exact ⟨rfl, rfl⟩
          | built => cases hn
      | start =>
          rw [take, act, start_of_held_none hh]
          exact ⟨hh, rfl⟩
      | stop =>
          rw [take, act, stop_of_held_none hh]
          exact ⟨hh, rfl⟩
      | submit frame =>
          rw [take, act, submit_of_held_none hh]
          exact ⟨hh, rfl⟩
      | post event =>
          rw [take, act, post_of_held_none hh]
          exact ⟨hh, rfl⟩
      | alter change =>
          rw [take, act, alter_of_held_none hh]
          exact ⟨hh, rfl⟩

/-- Without a pipeline and with the queue closed, all that is submitted is discarded until a build
succeeds. -/
theorem queue_after_of_closed {turns : List (Turn ρ)} (hh : p.held = none)
    (hclosed : p.queue.closed = true) {ledger : Ledger}
    (hn : (p.ledgerOf ledger turns).built = false) :
    (p.after turns).queue =
      { p.queue with
        discarded := p.queue.discarded + (turns.filterMap Turn.frame?).length } := by
  induction turns generalizing p ledger with
  | nil => rfl
  | cons turn turns ih =>
      have hfirst : (p.ledgerAfter ledger turn).built = false := by
        rw [Bool.eq_false_iff]
        intro hb
        have hlast := built_ledgerOf hb (p.take turn) turns
        rw [ledgerOf] at hn
        exact absurd (hn.symm.trans hlast) Bool.false_ne_true
      obtain ⟨hh', hqueue⟩ := take_of_held_none hh hfirst
      cases hf : turn.frame? with
      | none =>
          rw [hf, Option.elim_none] at hqueue
          have hrest := ih hh' (hqueue ▸ hclosed) hn
          rw [after_cons, hrest, hqueue, List.filterMap_cons_none hf]
      | some frame =>
          rw [hf, Option.elim_some, FrameQueue.push_of_closed hclosed] at hqueue
          have hclosed' : (p.take turn).queue.closed = true := by
            rw [hqueue]
            exact hclosed
          have hrest := ih hh' hclosed' hn
          rw [after_cons, hrest, hqueue, List.filterMap_cons_some hf, List.length_cons,
            Nat.add_right_comm]
          rfl

/-! ## Stops in a run -/

/-- A stop, whatever the player has gone through before: the loop runs out, whatever it was doing.
Then nothing is held and nothing plays; the state is `stopped`, or `unbuilt` if no build has ever
succeeded; what is on air is as it was, and no error is noted. If a pipeline was held the queue is
empty and closed, and all that is submitted from then on is discarded until a build succeeds. A
second stop changes nothing. What the pipeline is told by a stop is a farewell, whatever it answers;
the engines at hand raise no error at this. -/
theorem stop_of_run :
    (∀ (engine : ρ) (settings : PlayerSettings) (turns : List (Turn ρ)),
      let fresh : Player ρ π := new engine settings
      let p := fresh.after turns
      let q := p.stop
      (∀ held, p.held = some held → (p.runOut held).loopRuns = false) ∧
      q.held = none ∧ q.status.playing = false ∧
      q.state = (if (fresh.ledgerOf .blank turns).built then .stopped else .unbuilt) ∧
      q.status.onFallback = p.status.onFallback ∧
      (EndsQuietly ρ → q.status.errorDetected = p.status.errorDetected) ∧
      (p.held.isSome = true → q.queue = p.queue.close ∧
        ∀ later : List (Turn ρ), (q.ledgerOf .blank later).built = false →
          (q.after later).queue =
            { p.queue.close with
              discarded := p.queue.discarded + (later.filterMap Turn.frame?).length }) ∧
      q.stop = q) ∧
    (∀ p : Player (Tape ρ) (Taped π),
      p.untaped.stop = p.stop.untaped ∧
      (p.held = none → p.stop.engine.log = p.engine.log) ∧
      ∀ held, p.held = some held → ∃ f : Farewell,
        f.endOfStream.isSome = (held.running.isSome && held.topology.liveSource?.isSome) ∧
        p.stop.engine.log = p.engine.log ++ Log.entries held.pipeline.number f.calls) ∧
    EndsQuietly Recorder ∧ EndsQuietly Simulator := by
  refine ⟨?_, ?_, Recorder.endsQuietly, Simulator.endsQuietly⟩
  · intro engine settings turns fresh p q
    have hsituation : Situation (fresh.ledgerOf .blank turns) p :=
      (Situation.new engine settings).after turns
    have hcaughtUp : p.CaughtUp := (CaughtUp.new engine settings).after turns
    refine ⟨?_, p.held_stop, p.playing_stop, hsituation.state_stop, p.onFallback_stop,
      hcaughtUp.errorDetected_stop, ?_, p.stop_stop⟩
    · intro held _
      exact (p.runOut_end held).1
    · intro hsome
      obtain ⟨held, hh⟩ := Option.isSome_iff_exists.1 hsome
      have hqueue : q.queue = p.queue.close := queue_stop hh
      refine ⟨hqueue, ?_⟩
      intro later hn
      have hclosed : q.queue.closed = true := by
        rw [hqueue]
        rfl
      rw [queue_after_of_closed p.held_stop hclosed hn, hqueue]
      rfl
  · intro p
    refine ⟨p.stop_untaped, ?_, ?_⟩
    · intro hh
      rw [stop_of_held_none hh]
    · intro held hh
      exact log_stop hh

/-- A pull waits, and an error waits behind it. -/
def standstill : List (Turn Recorder) :=
  [buildFor "udp://h:1", .action .start, .action (.post .needData),
    .action (.post (.error none "late"))]

/-- Frames come after the stop, and a build fails. -/
def stragglers : List (Turn Recorder) :=
  [.action (.submit ⟨1, [10]⟩), buildFor "", .action (.submit ⟨2, [20]⟩)]

theorem stop_of_standstill :
    let p : Player Recorder Nat := (new (.withFaults .none) ⟨60000, 4⟩).after standstill
    let onTape : Player (Tape Recorder) (Taped Nat) :=
      (new (.fresh (.withFaults .none)) ⟨60000, 4⟩).after (standstill.map Turn.onTape)
    (p.waits = true ∧ p.held.isSome = true ∧ p.stop.status.errorDetected = false ∧
      p.stop.queue = p.queue.close ∧ (p.stop.after stragglers).queue.discarded = 2) ∧
    ∃ held, onTape.held = some held ∧ ∃ f : Farewell, f.endOfStream.isSome = true ∧
      onTape.stop.engine.log = onTape.engine.log ++ Log.entries held.pipeline.number f.calls := by
  intro p onTape
  obtain ⟨hrun, htape, hquiet, -⟩ := @stop_of_run Recorder Nat _
  obtain ⟨-, -, -, -, -, herror, hqueue, -⟩ := hrun (.withFaults .none) ⟨60000, 4⟩ standstill
  have hheld : p.held.isSome = true := by decide +kernel
  obtain ⟨hclosed, hlater⟩ := hqueue hheld
  have hn : (p.stop.ledgerOf .blank stragglers).built = false := by decide +kernel
  refine ⟨⟨by decide +kernel, hheld, ?_, hclosed, ?_⟩, ?_⟩
  · exact (herror hquiet).trans (by decide +kernel)
  · rw [hlater stragglers hn]
    decide +kernel
  · obtain ⟨-, -, hfarewell⟩ := htape onTape
    have hstarted : (onTape.held.any fun held =>
        held.running.isSome && held.topology.liveSource?.isSome) = true := by decide +kernel
    obtain ⟨held, hh, hlive⟩ := (Option.any_eq_true _ _).1 hstarted
    obtain ⟨f, hend, hlog⟩ := hfarewell held hh
    exact ⟨held, hh, f, hend.trans hlive, hlog⟩

end Player

end StandbyStream
