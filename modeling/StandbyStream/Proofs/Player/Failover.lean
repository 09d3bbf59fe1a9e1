import StandbyStream.Engine.Simulator
import StandbyStream.Proofs.Player.Agreement
import StandbyStream.Proofs.Player.Delivery
import StandbyStream.Proofs.Player.Demand

/-!
# The failover

The fallback is put on air by a starved demand, and then for good: an idle feed serves no demand, so
until a build succeeds nothing is handed to the pipeline, nothing is taken from the queue, and the
fallback stays on air (`Player.Retired`). On the simulator the input on air is the one that the
status tells (`Player.Mirrors`). `Player.failover_of_run` puts this together with the agreement of
status, feed and tape and with the account of the demands.
-/

namespace StandbyStream

variable {ρ π : Type}

/-! ## Queues that are fed alone -/

/-- What has been done to a queue is pushes and closings alone: no frame has been taken from it. -/
def FrameQueue.Unserved (before q : FrameQueue) : Prop :=
  ∃ ops : List Operation, q = before.after ops ∧ ∀ op ∈ ops, op ≠ .pop ∧ op ≠ .reset

namespace FrameQueue.Unserved

variable {before q : FrameQueue}

theorem refl (q : FrameQueue) : q.Unserved q :=
  ⟨[], rfl, nofun⟩

theorem perform (h : before.Unserved q) (op : Operation) (hpop : op ≠ .pop) (hreset : op ≠ .reset) :
    before.Unserved (q.perform op).2 := by
  obtain ⟨ops, rfl, hops⟩ := h
  refine ⟨ops ++ [op], ?_, ?_⟩
  · rw [after_append]
    rfl
  · intro op' hm
    rcases List.mem_append.1 hm with hm | hm
    · exact hops op' hm
    · cases List.mem_singleton.1 hm
      exact ⟨hpop, hreset⟩

theorem push (h : before.Unserved q) (frame : Frame) : before.Unserved (q.push frame).2 :=
  h.perform (.push 0 frame) nofun nofun

theorem close (h : before.Unserved q) : before.Unserved q.close :=
  h.perform .close nofun nofun

end FrameQueue.Unserved

/-! ## Pulls with and without the live input -/

namespace Loop

variable [MediaEngine ρ π]

/-- What a pull does that finds no frame in time. It puts the fallback on air if the engine agrees;
else the feed and the flag stay as they were, and the loop ends with an error. -/
def Trips (l : Loop ρ π) : Prop :=
  if (MediaEngine.select .fallback l.deck.rig).1.isOk then
    l.pull.feed.failedOver = true ∧ l.pull.deck.status.onFallback = true ∧
      l.pull.phase = .listening
  else
    l.pull.feed = l.feed ∧ l.pull.deck.status.onFallback = l.deck.status.onFallback ∧
      l.pull.deck.status.errorDetected = true ∧ l.pull.phase = .ended

theorem Starved.trips {l : Loop ρ π} (h : l.Starved) : l.Trips := by
  rw [Trips, pull_of_late h.live h.queueOpen h.empty h.late]
  rcases MediaEngine.select .fallback l.deck.rig with ⟨fault | _, rig⟩
  · exact ⟨rfl, rfl, Bool.or_true _, rfl⟩
  · exact ⟨rfl, rfl, rfl⟩

/-- A step leaves an idle feed, the queue and what is on air as they are, and the pipeline is not
called. -/
theorem Step.of_idle {l l' : Loop (Tape ρ) (Taped π)} (h : Step l l') (idle : l.feed.Idle) :
    l'.feed = l.feed ∧ l'.deck.queue = l.deck.queue ∧
      l'.deck.status.onFallback = l.deck.status.onFallback ∧
      l'.deck.rig.engine.log = l.deck.rig.engine.log := by
  cases h with
  | closed _ live => exact absurd idle live
  | waiting _ live => exact absurd idle live
  | delivered _ live => exact absurd idle live
  | refused _ live => exact absurd idle live
  | switched _ live => exact absurd idle live
  | stuck _ live => exact absurd idle live
  | demanded _ hd =>
      exact ⟨rfl, rfl, rfl, (Rig.told_of_raiseDemand hd).2.trans (List.append_nil _)⟩
  | _ => exact ⟨rfl, rfl, rfl, rfl⟩

end Loop

namespace Player

/-! ## No way back -/

/-- The feed of a held pipeline is idle, or will be once it is started. -/
structure Rests (held : Held π) : Prop where
  unstarted : held.running = none → held.topology.mode = .fallbackOnly
  started : ∀ running, held.running = some running → running.feed.Idle

/-- The fallback is on air. Since the tape showed these buffers and the queue was as it was before,
nothing has been handed to the pipeline and nothing has been taken from the queue. -/
structure Retired (past : List Buffer) (before : FrameQueue) (p : Player (Tape ρ) (Taped π)) :
    Prop where
  flag : p.status.onFallback = true
  rests : ∀ held, p.held = some held → Rests held
  buffers : p.engine.log.buffers = past
  queue : before.Unserved p.queue

variable [MediaEngine ρ π]

omit [MediaEngine ρ π] in
/-- A player that tells that the fallback is on air is retired. -/
theorem Agrees.retired {ledger : Ledger} {p : Player (Tape ρ) (Taped π)} (h : p.Agrees ledger)
    (flag : p.status.onFallback = true) : p.Retired p.engine.log.buffers p.queue := by
  refine ⟨flag, ?_, rfl, .refl _⟩
  intro held hh
  have hk := h.held held hh
  refine ⟨?_, ?_⟩
  · intro hr
    -- a pipeline that has not been asked for the fallback has nothing else
    rcases (h.status _ hk.topology).flag.1 flag with hmode | hasked
    · exact hmode
    · exact absurd hasked (hk.unasked hr true)
  · intro running hr
    -- the feed of a started one tells the same as the flag
    exact .inr ((hk.loop running hr).branch.trans flag)

namespace Retired

variable {past : List Buffer} {before : FrameQueue} {p : Player (Tape ρ) (Taped π)}

theorem durable (past : List Buffer) (before : FrameQueue) :
    Durable (Retired past before : Player (Tape ρ) (Taped π) → Prop) where
  patience := fun h _ => ⟨h.flag, h.rests, h.buffers, h.queue⟩
  pending := by
    intro p held hh h pending
    obtain ⟨unstarted, started⟩ := h.rests held hh
    refine ⟨h.flag, ?_, h.buffers, h.queue⟩
    rintro _ ⟨⟩
    exact ⟨unstarted, started⟩
  begin := by
    intro p held hh hr h
    obtain ⟨played, ht, -⟩ := Loop.told_begin (p.unbegun held)
    obtain ⟨-, -, hfeed, hqueue⟩ := p.firstLoop_frame held
    refine ⟨?_, ?_, ?_, ?_⟩
    · exact (Loop.onFallback_begin _).trans h.flag
    · rintro _ ⟨⟩
      refine ⟨nofun, ?_⟩
      rintro _ ⟨⟩
      change (p.firstLoop held).feed.Idle
      rw [hfeed]
      exact .inl ((h.rests held hh).unstarted hr)
    · exact ht.buffers.trans ((List.append_nil _).trans h.buffers)
    · change before.Unserved (p.firstLoop held).deck.queue
      rw [hqueue]
      exact h.queue
  step := by
    intro p held running l hh hr hstep h
    have hidle := (h.rests held hh).started running hr
    obtain ⟨hfeed, hqueue, hflag, hlog⟩ := hstep.of_idle hidle
    refine ⟨hflag.trans h.flag, ?_, ?_, ?_⟩
    · rintro _ ⟨⟩
      refine ⟨nofun, ?_⟩
      rintro _ ⟨⟩
      change l.feed.Idle
      rw [hfeed]
      exact hidle
    · exact (congrArg Log.buffers hlog).trans h.buffers
    · change before.Unserved l.deck.queue
      rw [hqueue]
      exact h.queue

/-- A build that fails does not bring the live input back. -/
theorem build (h : p.Retired past before) {request : BuildRequest} {ledger : Ledger}
    (hn : (p.ledgerAfter ledger (.action (.build request))).built = false) :
    (p.build request).2.Retired past before := by
  have hend := build_end p request
  rw [ledgerAfter] at hn
  generalize p.build request = result at hend hn
  cases hend with
  | refused => exact h
  | failed _ _ he =>
      have hlog := Tape.log_of_attempt he
      refine ⟨h.flag, ?_, (congrArg Log.buffers hlog).trans h.buffers, h.queue⟩
      intro held hh
      cases hh
  | built => cases hn

theorem stop (h : p.Retired past before) : p.stop.Retired past before := by
  cases hh : p.held with
  | none =>
      rw [stop_of_held_none hh]
      exact ⟨h.flag, h.rests, h.buffers, h.queue⟩
  | some held =>
      rw [stop_of_held hh]
      obtain ⟨f, -, hdown⟩ := p.log_askedToQuit held
      obtain ⟨unstarted, started⟩ := h.rests held hh
      have hasked : (p.askedToQuit held).Retired past before := by
        refine ⟨h.flag, ?_, ?_, h.queue.close⟩
        · rintro _ ⟨⟩
          exact ⟨unstarted, started⟩
        · refine (congrArg Log.buffers hdown).trans ?_
          rw [Log.buffers_append, Log.buffers_entries, f.buffers_calls, List.append_nil]
          exact h.buffers
      have hout : (p.runOut held).Retired past before := (durable past before).settle hasked
      exact ⟨hout.flag, nofun, hout.buffers, hout.queue⟩

theorem take (h : p.Retired past before) {turn : Turn ρ} {ledger : Ledger}
    (hn : (p.ledgerAfter ledger turn.onTape).built = false) :
    (p.take turn.onTape).Retired past before := by
  cases turn with
  | action a =>
      cases a with
      | build request => exact h.build hn
      | start => exact (durable past before).start h
      | stop => exact h.stop
      | submit frame =>
          have hqueue := h.queue.push frame
          exact (durable past before).submit ⟨h.flag, h.rests, h.buffers, hqueue⟩
      | post event => exact (durable past before).post h event
      | alter change =>
          exact (durable past before).alter ⟨h.flag, h.rests, h.buffers, h.queue⟩
  | expiry => exact (durable past before).expire h

theorem after (h : p.Retired past before) (turns : List (Turn ρ))
    (hn : (p.ledgerOf .blank (turns.map Turn.onTape)).built = false) :
    (p.after (turns.map Turn.onTape)).Retired past before := by
  have step : ∀ turn ∈ turns.map Turn.onTape, ∀ {ledger : Ledger}
      {p : Player (Tape ρ) (Taped π)}, (ledger.built = false → p.Retired past before) →
      (p.ledgerAfter ledger turn).built = false → (p.take turn).Retired past before := by
    intro taped hm ledger p h hn
    obtain ⟨turn, -, rfl⟩ := List.mem_map.1 hm
    -- a build that had succeeded before would not be taken back in this turn
    have hbefore : ledger.built = false := by
      rw [Bool.eq_false_iff]
      intro hb
      have hbuilt := built_ledgerAfter hb p turn.onTape
      exact absurd (hn.symm.trans hbuilt) Bool.false_ne_true
    exact (h hbefore).take hn
  exact after_induction (I := fun ledger p => ledger.built = false → p.Retired past before)
    step (fun _ => h) hn

end Retired

end Player

/-! ## The simulator -/

namespace Simulator

/-- A change from outside that leaves the input on air alone; faults are set and cleared so. -/
def LeavesOnAir (change : Simulator → Simulator) : Prop :=
  ∀ sim, (change sim).active = sim.active

variable {rig rig' : Rig Simulator SimPipeline}

theorem active_play {answer : Except Plain Unit} (h : MediaEngine.play rig = (answer, rig')) :
    rig'.engine.active = rig.engine.active := by
  change play rig = _ at h
  rw [play.eq_def] at h
  split at h
  · cases h
    rfl
  · split at h <;> cases h <;> rfl

theorem active_push {buffer : Buffer} {answer : Except FlowError Unit}
    (h : MediaEngine.push buffer rig = (answer, rig')) :
    rig'.engine.active = rig.engine.active := by
  change push buffer rig = _ at h
  rw [push.eq_def] at h
  repeat' split at h
  all_goals
    cases h
    rfl

theorem active_endOfStream (rig : Rig Simulator SimPipeline) :
    (MediaEngine.endOfStream rig).2.2.engine.active = rig.engine.active := by
  change (endOfStream rig).2.2.engine.active = _
  rw [endOfStream.eq_def]
  repeat' split
  all_goals rfl

theorem active_raiseDemand (h : MediaEngine.raiseDemand? rig = some rig') :
    rig'.engine.active = rig.engine.active := by
  change raiseDemand? rig = _ at h
  rw [raiseDemand?.eq_def] at h
  split at h <;> cases h
  rfl

/-- The simulator always puts the fallback on air. -/
theorem select_fallback (rig : Rig Simulator SimPipeline) :
    MediaEngine.select .fallback rig =
      (.ok (), { rig with engine := { rig.engine with active := some .fallback } }) :=
  rfl

theorem active_instantiate {t : Topology} {sim sim' : Simulator} {pipeline : SimPipeline}
    (h : MediaEngine.instantiate t sim = (.ok pipeline, sim')) :
    sim'.active = some (if t.liveSource?.isSome then .live else .fallback) := by
  change instantiate t sim = _ at h
  rw [instantiate.eq_def] at h
  split at h <;> cases h
  rfl

theorem active_of_failed {t : Topology} {sim sim' : Simulator} {fault : Plain}
    (h : MediaEngine.instantiate t sim = (.error fault, sim')) : sim'.active = sim.active := by
  change instantiate t sim = _ at h
  rw [instantiate.eq_def] at h
  split at h <;> cases h
  rfl

end Simulator

namespace Player

/-- Once a pipeline has been built the input on air is the one that the status tells. -/
def Mirrors (ledger : Ledger) (p : Player Simulator SimPipeline) : Prop :=
  ledger.built = true →
    p.engine.active = some (if p.status.onFallback then .fallback else .live)

namespace Mirrors

variable {ledger : Ledger} {p : Player Simulator SimPipeline}

theorem of_eq (h : p.Mirrors ledger) {p' : Player Simulator SimPipeline}
    (hactive : p'.engine.active = p.engine.active)
    (hflag : p'.status.onFallback = p.status.onFallback) : p'.Mirrors ledger := by
  intro hb
  rw [hactive, hflag]
  exact h hb

theorem durable (ledger : Ledger) : Durable (Mirrors ledger) where
  patience := fun h _ => h
  pending := fun _ h _ => h
  begin := by
    intro p held hh hr h
    have hactive : (p.firstLoop held).deck.rig.engine.active = p.engine.active := by
      rw [firstLoop, Loop.begin.eq_def]
      split
      · next hplay => exact Simulator.active_play hplay
      · next hplay => exact Simulator.active_play hplay
    exact h.of_eq hactive (Loop.onFallback_begin _)
  step := by
    intro p held running l hh hr hstep h
    cases hstep with
    | delivered _ _ _ _ hpush => exact h.of_eq (Simulator.active_push hpush) rfl
    | refused _ _ _ _ hpush => exact h.of_eq (Simulator.active_push hpush) rfl
    | switched _ _ _ _ _ hselect =>
        rw [Simulator.select_fallback] at hselect
        cases hselect
        exact fun _ => rfl
    | stuck _ _ _ _ _ hselect =>
        rw [Simulator.select_fallback] at hselect
        cases hselect
    | demanded _ hd => exact h.of_eq (Simulator.active_raiseDemand hd) rfl
    | _ => exact h

/-- The status of a pipeline that has just been built goes by its mode, the input on air by whether
it has a live source. -/
theorem build (h : p.Mirrors ledger) (request : BuildRequest) :
    (p.build request).2.Mirrors (p.ledgerAfter ledger (.action (.build request))) := by
  have hend := build_end p request
  rw [ledgerAfter]
  generalize p.build request = result at hend
  cases hend with
  | refused => exact h
  | @failed cause engine _ other he =>
      have hactive : engine.active = p.engine.active := by
        rcases he with rfl | ⟨t, fault, hi⟩
        · rfl
        · exact Simulator.active_of_failed hi
      have hfailed : ({ p with held := none, engine } : Player Simulator SimPipeline).Mirrors
          ledger := h.of_eq hactive rfl
      cases cause with
      | playing => exact absurd rfl other
      | _ => exact hfailed
  | @built t pipeline engine _ ht hi =>
      intro _
      -- a topology that is built has a live source in live mode alone
      refine (Simulator.active_instantiate hi).trans ?_
      rw [Topology.liveSource_of_build ht, afterBuild, Status.afterBuild]
      cases t.mode <;> rfl

theorem stop (h : p.Mirrors ledger) : p.stop.Mirrors ledger := by
  cases hh : p.held with
  | none =>
      rw [stop_of_held_none hh]
      exact h.of_eq rfl rfl
  | some held =>
      rw [stop_of_held hh]
      have hdown : (p.askedToQuit held).engine.active = p.engine.active := by
        rw [askedToQuit, takeDown.eq_def]
        simp only [askToQuit]
        split
        · exact Simulator.active_endOfStream _
        · rfl
      have hasked : (p.askedToQuit held).Mirrors ledger := h.of_eq hdown rfl
      have hout : (p.runOut held).Mirrors ledger := (durable ledger).settle hasked
      exact hout.of_eq rfl rfl

theorem take (h : p.Mirrors ledger) {turn : Turn Simulator}
    (hturn : ∀ change, turn = .action (.alter change) → Simulator.LeavesOnAir change) :
    (p.take turn).Mirrors (p.ledgerAfter ledger turn) := by
  cases turn with
  | action a =>
      cases a with
      | build request => exact h.build request
      | start => exact (durable ledger).start h
      | stop => exact h.stop
      | submit frame => exact (durable ledger).submit h
      | post event => exact (durable ledger).post h event
      | alter change => exact (durable ledger).alter (h.of_eq (hturn change rfl p.engine) rfl)
  | expiry => exact (durable ledger).expire h

theorem after (h : p.Mirrors ledger) {turns : List (Turn Simulator)}
    (hturns : ∀ change, .action (.alter change) ∈ turns → Simulator.LeavesOnAir change) :
    (p.after turns).Mirrors (p.ledgerOf ledger turns) := by
  refine after_induction ?_ h
  intro turn hm ledger p h
  refine h.take ?_
  rintro change rfl
  exact hturns change hm

end Mirrors

/-! ## Runs -/

/-- A loop whose switch has failed does not run any more. -/
theorem Agrees.loopRuns_eq_false {ledger : Ledger} {p : Player (Tape ρ) (Taped π)}
    (h : p.Agrees ledger) (hrefused : (.select .fallback, false) ∈ p.engine.log.newest) :
    p.loopRuns = false := by
  rw [loopRuns]
  cases hh : p.held with
  | none => rfl
  | some held =>
      cases hr : held.running with
      | none => simp [hr]
      | some running =>
          have hended : running.phase = .ended := ((h.held held hh).loop running hr).ended hrefused
          simp [hr, hended]

variable [MediaEngine ρ π]

/-- Whatever a player goes through, in this order: on a tape it does the same as off it. Once a
build has succeeded the flag is up exactly if the topology built last has no live input or its
pipeline has been switched to the fallback; the feed of its loop says the same; and if a switch has
failed, the flag is down, the error is noted and the loop does not run. Inputs are asked for by
the starved demands, one for one, and each of these trips. Once the flag is up it stays up until a
build succeeds; until then nothing is pushed, and nothing is taken from the queue. On the
simulator the flag is up exactly if the fallback is on air. -/
theorem failover_of_run :
    (∀ (engine : ρ) (settings : PlayerSettings) (turns : List (Turn ρ)),
      let fresh : Player (Tape ρ) (Taped π) := new (.fresh engine) settings
      let p := fresh.after (turns.map Turn.onTape)
      let calls := p.engine.log.newest
      let demands := fresh.demandsIn (turns.map Turn.onTape)
      p.untaped = (new engine settings).after turns ∧
      (((new engine settings : Player ρ π).ledgerOf .blank turns).built = true →
        (∃ t, p.engine.log.made.getLast? = some t ∧
          (p.status.onFallback = true ↔
            t.mode = .fallbackOnly ∨ (.select .fallback, true) ∈ calls)) ∧
        (∀ held running, p.held = some held → held.running = some running →
          running.feed.failedOver = p.status.onFallback) ∧
        ((.select .fallback, false) ∈ calls →
          p.status.onFallback = false ∧ p.status.errorDetected = true ∧ p.loopRuns = false)) ∧
      p.switches = (demands.filter fun l => l.Starved).map Loop.switchCall ∧
      (∀ l ∈ demands, l.Starved → l.Trips) ∧
      (p.status.onFallback = true → ∀ later : List (Turn ρ),
        (p.ledgerOf .blank (later.map Turn.onTape)).built = false →
        let q := p.after (later.map Turn.onTape)
        q.status.onFallback = true ∧ q.engine.log.buffers = p.engine.log.buffers ∧
          p.queue.Unserved q.queue)) ∧
    ∀ (sim : Simulator) (settings : PlayerSettings) (turns : List (Turn Simulator)),
      (∀ change, .action (.alter change) ∈ turns → Simulator.LeavesOnAir change) →
      let p : Player Simulator SimPipeline := (new sim settings).after turns
      ((new sim settings : Player Simulator SimPipeline).ledgerOf .blank turns).built = true →
      (p.status.onFallback = true ↔ p.engine.active = some .fallback) := by
  refine ⟨?_, ?_⟩
  · intro engine settings turns fresh p calls demands
    have h : p.Agrees (fresh.ledgerOf .blank (turns.map Turn.onTape)) :=
      (Agrees.new engine settings).after turns
    refine ⟨(after_untaped fresh turns).symm, ?_, fresh.switches_after turns, ?_, ?_⟩
    · intro hb
      have hb' : (fresh.ledgerOf .blank (turns.map Turn.onTape)).built = true := by
        rw [← ledgerOf_untaped]
        exact hb
      obtain ⟨t, ht⟩ := Option.isSome_iff_exists.1 (h.built.trans hb')
      have hs : p.status.Agrees t.mode calls := h.status t ht
      refine ⟨⟨t, ht, hs.flag⟩, ?_, ?_⟩
      · intro held running hh hr
        exact ((h.held held hh).loop running hr).branch
      · intro hrefused
        obtain ⟨hflag, herror⟩ := hs.refused hrefused
        exact ⟨hflag, herror, h.loopRuns_eq_false hrefused⟩
    · exact fun l _ hl => hl.trips
    · intro flag later hn
      have hlater := (h.retired flag).after later hn
      exact ⟨hlater.flag, hlater.buffers, hlater.queue⟩
  · intro sim settings turns hturns p hb
    have hfresh : (new sim settings : Player Simulator SimPipeline).Mirrors .blank := nofun
    have hactive := (hfresh.after hturns) hb
    change p.engine.active = some (if p.status.onFallback then .fallback else .live) at hactive
    rw [hactive]
    cases p.status.onFallback <;> simp

/-- A recorder on a tape, which refuses to switch if a text is given. -/
def recorded (refusal : Option String) (turns : List (Turn Recorder)) :
    Player (Tape Recorder) (Taped Nat) :=
  (new (.fresh (.withFaults { RecorderFaults.none with select := refusal })) ⟨100, 4⟩).after
    (turns.map Turn.onTape)

/-- A demand finds no frame. -/
def lull {ρ : Type} : List (Turn ρ) :=
  [buildFor "udp://h:1", .action .start, .action (.post .needData)]

/-- Frames come too late, a build fails, and the stream is stopped. -/
def encore {ρ : Type} : List (Turn ρ) :=
  [.action (.submit ⟨1, [10]⟩), .action (.post .needData), buildFor "", .action .stop]

/-- The simulator refuses buffers from the time when a demand has found no frame. -/
def faultyLull : List (Turn Simulator) :=
  lull ++ [.action (.alter (Simulator.setRefusal (some .flushing)))]

theorem failover_of_lull :
    let p := recorded none lull
    let q := p.after (encore.map Turn.onTape)
    let refused := recorded (some "stuck") lull
    let sim : Player Simulator SimPipeline := (new .flawless ⟨100, 4⟩).after faultyLull
    (p.status.onFallback = true ∧ p.switches = [(0, .fallback, true)] ∧
      q.status.onFallback = true ∧ q.engine.log.buffers = p.engine.log.buffers ∧
      p.queue.Unserved q.queue) ∧
    ((.select .fallback, false) ∈ refused.engine.log.newest ∧ refused.status.onFallback = false ∧
      refused.status.errorDetected = true ∧ refused.loopRuns = false) ∧
    (sim.status.onFallback = true ∧ sim.engine.active = some .fallback) := by
  intro p q refused sim
  have hflag : p.status.onFallback = true := by decide +kernel
  have hn : (p.ledgerOf .blank (encore.map Turn.onTape)).built = false := by decide +kernel
  have hb : ((new (.withFaults { RecorderFaults.none with select := some "stuck" }) ⟨100, 4⟩ :
      Player Recorder Nat).ledgerOf .blank lull).built = true := by decide +kernel
  have hrefused : (.select .fallback, false) ∈ refused.engine.log.newest := by decide +kernel
  have hs : ((new .flawless ⟨100, 4⟩ : Player Simulator SimPipeline).ledgerOf .blank
      faultyLull).built = true := by decide +kernel
  have hsflag : sim.status.onFallback = true := by decide +kernel
  have hturns : ∀ change, .action (.alter change) ∈ faultyLull →
      Simulator.LeavesOnAir change := by
    intro change hm
    simp only [faultyLull, lull, buildFor, List.mem_append, List.mem_cons, List.not_mem_nil,
      Turn.action.injEq, Action.alter.injEq, reduceCtorEq, or_false, false_or] at hm
    rw [hm]
    exact fun _ => rfl
  obtain ⟨hrun, hsim⟩ := @failover_of_run Recorder Nat _
  obtain ⟨-, -, hswitches, -, hlater⟩ := hrun (.withFaults .none) ⟨100, 4⟩ lull
  obtain ⟨-, hbuilt, -⟩ :=
    hrun (.withFaults { RecorderFaults.none with select := some "stuck" }) ⟨100, 4⟩ lull
  obtain ⟨-, -, hafter⟩ := hbuilt hb
  have hactive := hsim .flawless ⟨100, 4⟩ faultyLull hturns hs
  refine ⟨⟨hflag, hswitches.trans (by decide +kernel), hlater hflag encore hn⟩,
    ⟨hrefused, hafter hrefused⟩, hsflag, hactive.1 hsflag⟩

end Player

end StandbyStream
