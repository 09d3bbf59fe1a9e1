import StandbyStream.Proofs.Player.Settling

/-!
# Streams as schedules

From the start of a stream to its stop a player comes to rest again and again: after the start, each
time that a frame is submitted, an event is posted or a wait is over, and when the stop has joined
the loop. In between its threads act one after the other, so that all of it together is one schedule
of theirs (`Threads.exists_run_of_stop`). What is shown of every schedule therefore holds of a player
as well; the schedules that it never goes through are those in which a stop comes in the middle of
things.
-/

namespace StandbyStream

variable {ρ π : Type} [MediaEngine ρ π]

namespace Loop

/-- A pull that waits looks into the queue. -/
def WaitsLive (l : Loop ρ π) : Prop :=
  l.phase = .pulling → ¬ l.feed.Idle

theorem Step.waitsLive {l l' : Loop ρ π} (h : Step l l') (live : l.WaitsLive) : l'.WaitsLive := by
  cases h with
  | waiting _ hl => exact fun _ => hl
  | handled _ => exact live
  | demanded on _ => exact live
  | _ => simp [WaitsLive, finish]

theorem waitsLive_settle {l : Loop ρ π} (live : l.WaitsLive) : l.settle.WaitsLive :=
  settle_induction (fun hstep hl => hstep.waitsLive hl) live

theorem waitsLive_begin (l : Loop ρ π) : l.begin.WaitsLive := by
  rw [WaitsLive, begin.eq_def]
  split <;> simp [failToPlay]

/-- A loop that is told to quit ends. -/
theorem phase_settle_of_quit {l : Loop ρ π} (hquit : l.quit = true)
    (hclosed : l.deck.queue.closed = true) (hp : l.pending ≠ []) : l.settle.phase = .ended := by
  rw [settle_of_quit hquit hclosed hp]
  split
  · assumption
  · rfl

end Loop

/-- A turn while a stream plays: it is not stopped, and the engine is not changed from outside. -/
def Player.Turn.inPlay : Player.Turn ρ → Bool
  | .action .stop => false
  | .action (.alter _) => false
  | _ => true

namespace Threads

/-- The threads of a stream that has been started and is not being stopped, where the player is. -/
structure AtRest (s : Threads ρ π) (p : Player ρ π) (held : Held π) (running : Running) :
    Prop where
  holds : p.held = some held
  runs : held.running = some running
  shows : Shows s (p.loop held running) (.ofPhase running.phase) held.pending
  hasLive : s.hasLive = held.topology.liveSource?.isSome
  stop : s.stop = .markStopping
  quit : p.quit = false
  live : (p.loop held running).WaitsLive

variable {s s' : Threads ρ π} {p : Player ρ π} {held : Held π} {running : Running}
  {pending : List Event}

/-- The threads can come to where a player is at rest. -/
def Plays (s : Threads ρ π) (p : Player ρ π) : Prop :=
  ∃ acts s' held running, s.run acts = some s' ∧ AtRest s' p held running

theorem AtRest.plays (h : AtRest s p held running) : Plays s p :=
  ⟨[], s, held, running, run_nil s, h⟩

theorem Plays.after {acts : List Act} (h : Plays s' p) (hrun : s.run acts = some s') :
    Plays s p := by
  obtain ⟨acts', t, held, running, hrest, ht⟩ := h
  exact ⟨acts ++ acts', t, held, running, run_append hrun hrest, ht⟩

/-- The threads come to where a loop that is put back into its player is. -/
theorem plays_withLoop {l : Loop ρ π} (h : Reaches s l l.pending)
    (hasLive : s.hasLive = held.topology.liveSource?.isSome) (stop : s.stop = .markStopping)
    (hpatience : l.patience = p.patience) (hquit : l.quit = p.quit) (quit : p.quit = false)
    (live : l.WaitsLive) : Plays s (p.withLoop held l) := by
  obtain ⟨s', hworks, hshows⟩ := h
  obtain ⟨acts, hrun⟩ := exists_run_of_works hworks
  obtain ⟨hstop, hlive⟩ := stop_of_works hworks
  have hloop : (p.withLoop held l).loop (Player.heldAt held l) ⟨l.feed, l.phase⟩ = l :=
    Player.loop_withLoop hpatience hquit
  refine ⟨acts, s', _, ⟨l.feed, l.phase⟩, hrun, Player.held_withLoop p held l, rfl, ?_,
    hlive.trans hasLive, hstop.trans stop, quit, ?_⟩
  · rw [hloop]
    exact hshows
  · rw [hloop]
    exact live

/-! ## Turns -/

theorem AtRest.settle (h : AtRest s p held running) : Plays s p.settle := by
  obtain ⟨hpatience, hquit, -⟩ := (Loop.settle_steps (p.loop held running)).frame
  rw [Player.settle_of_running h.holds h.runs]
  exact plays_withLoop (reaches_settle h.shows h.quit h.live) h.hasLive h.stop hpatience hquit
    h.quit (Loop.waitsLive_settle h.live)

theorem AtRest.submit (h : AtRest s p held running) (frame : Frame) : Plays s (p.submit frame) := by
  have hsubmit : AtRest { s with deck.queue := (s.deck.queue.push frame).2 }
      { p with queue := (p.queue.push frame).2 } held running := by
    refine { h with shows := { h.shows with deck := ?_ } }
    rw [h.shows.deck]
    rfl
  exact hsubmit.settle.after (run_single (.submit frame))

theorem AtRest.post (h : AtRest s p held running) (event : Event) : Plays s (p.post event).2 := by
  rw [Player.post.eq_def, h.holds]
  simp only
  split
  · exact h.plays
  · have harrive : AtRest { s with pending := s.pending ++ [event] }
        { p with held := some { held with pending := held.pending ++ [event] } }
        { held with pending := held.pending ++ [event] } running := by
      refine { h with holds := rfl, shows := { h.shows with pending := fun hn => ?_ } }
      exact congrArg (· ++ [event]) (h.shows.pending hn)
    exact harrive.settle.after (run_single (.arrive event))

omit [MediaEngine ρ π] in
theorem AtRest.withPatience (h : AtRest s p held running) (patience : Patience) :
    AtRest s { p with patience } held running :=
  { h with shows := { h.shows with } }

theorem AtRest.expire (h : AtRest s p held running) : Plays s p.expire := by
  rw [Player.expire]
  split
  · obtain ⟨acts, s', held', running', hrun, hrest⟩ := (h.withPatience .brief).settle
    exact ⟨acts, s', held', running', hrun, hrest.withPatience p.patience⟩
  · exact h.plays

/-- A turn of a started stream is something that its threads do. -/
theorem AtRest.take (h : AtRest s p held running) {turn : Player.Turn ρ} (hplay : turn.inPlay) :
    Plays s (p.take turn) := by
  cases turn with
  | expiry => exact h.expire
  | action a =>
    cases a with
    | build request =>
      -- refused as long as the stream is started
      have hrefused : p.build request = (.error .playing, p) :=
        if_pos (.inl (Player.isStarted_of_running h.holds h.runs))
      rw [Player.take, Player.act, hrefused]
      exact h.plays
    | start =>
      rw [Player.take, Player.act, Player.start_of_running h.holds h.runs]
      exact h.plays
    | stop => cases hplay
    | submit frame => exact h.submit frame
    | post event => exact h.post event
    | alter change => cases hplay

theorem Plays.turns (h : Plays s p) {turns : List (Player.Turn ρ)}
    (hplay : ∀ turn ∈ turns, turn.inPlay) : Plays s (p.after turns) := by
  induction turns generalizing p with
  | nil => exact h
  | cons turn turns ih =>
    obtain ⟨hturn, hturns⟩ := List.forall_mem_cons.1 hplay
    obtain ⟨acts, s', held, running, hrun, hrest⟩ := h
    exact ih ((hrest.take hturn).after hrun) hturns

/-! ## Starts and stops -/

/-- A start is something that the threads of the pipeline do. -/
theorem plays_start (hh : p.held = some held) (hr : held.running = none) (hquit : p.quit = false) :
    Plays (begin p held) p.start.2 := by
  have hshows : Shows (begin p held) (p.unbegun held) .play (p.unbegun held).pending :=
    ⟨rfl, rfl, rfl, rfl, rfl, fun _ => rfl⟩
  obtain ⟨hpatience, hquit', -⟩ := Player.firstLoop_frame p held
  have hbegun : Plays (begin p held) (p.withLoop held (p.firstLoop held)) :=
    plays_withLoop (reaches_begin hshows hquit) rfl rfl hpatience hquit' hquit
      (Loop.waitsLive_begin _)
  obtain ⟨acts, s', held', running, hrun, hrest⟩ := hbegun
  rw [Player.start_of_unstarted hh hr]
  exact hrest.settle.after hrun

/-- What a stop does between ending the live input and waiting for the loop. -/
def sendOff : List Act :=
  [.stop .halt, .stop .setQuit, .stop .closeQueue, .stop .wake]

theorem run_sendOff (hs : s.stop = .halt) :
    s.run sendOff = some
      { s with
        deck := ⟨s.deck.queue.close, s.deck.status, (MediaEngine.halt s.deck.rig).2⟩
        pending := s.pending ++ [.wake]
        quit := true
        stop := .join } := by
  refine run_cons.2 ⟨_, .halt hs, ?_⟩
  refine run_cons.2 ⟨_, .setQuit rfl, ?_⟩
  refine run_cons.2 ⟨_, .closeQueue rfl, ?_⟩
  exact run_single (.wake rfl)

/-- What a stop does before it waits for the loop. -/
def approach : List Act :=
  [.stop .markStopping, .stop .disconnect, .stop .endStream] ++ sendOff

/-- The pipeline is taken down and the loop is told to quit, as the player does it. -/
theorem AtRest.run_approach (h : AtRest s p held running) :
    ∃ events rig,
      s.run approach = some
        { s with
          deck := ⟨s.deck.queue.close, s.deck.status, rig⟩
          state := .stopping
          pending := s.pending ++ events ++ [.wake]
          quit := true
          stop := .join } ∧
      p.askedToQuit held =
        { p with
          engine := rig.engine
          queue := p.queue.close
          state := .stopping
          held := some
            { held with
              pipeline := rig.pipeline
              pending := held.pending ++ events ++ [.wake] }
          quit := true } := by
  have hrig : s.deck.rig = ⟨held.pipeline, p.engine⟩ := congrArg Deck.rig h.shows.deck
  have hstarted : held.running.isSome = true := by rw [h.runs]; rfl
  -- the live input is ended only if there is one
  by_cases hlive : s.hasLive = true
  · have hcond : held.running.isSome = true ∧ held.topology.liveSource?.isSome = true :=
      ⟨hstarted, h.hasLive.symm.trans hlive⟩
    refine ⟨(MediaEngine.endOfStream (MediaEngine.disconnectDemand s.deck.rig)).2.1,
      (MediaEngine.halt (MediaEngine.endOfStream
        (MediaEngine.disconnectDemand s.deck.rig)).2.2).2, ?_, ?_⟩
    · refine run_cons.2 ⟨_, .markStopping h.stop, ?_⟩
      refine run_cons.2 ⟨_, .disconnect rfl, ?_⟩
      refine run_cons.2 ⟨_, .endStream rfl hlive, ?_⟩
      exact run_sendOff rfl
    · rw [hrig, Player.askedToQuit, Player.takeDown.eq_def]
      simp only [if_pos hcond]
      rfl
  · have hcond : ¬ (held.running.isSome = true ∧ held.topology.liveSource?.isSome = true) :=
      fun hc => hlive (h.hasLive.trans hc.2)
    refine ⟨[], (MediaEngine.halt (MediaEngine.disconnectDemand s.deck.rig)).2, ?_, ?_⟩
    · rw [List.append_nil]
      refine run_cons.2 ⟨_, .markStopping h.stop, ?_⟩
      refine run_cons.2 ⟨_, .disconnect rfl, ?_⟩
      refine run_cons.2 ⟨_, .nothingToEnd rfl (Bool.eq_false_iff.2 hlive), ?_⟩
      exact run_sendOff rfl
    · rw [hrig, Player.askedToQuit, Player.takeDown.eq_def]
      simp only [if_neg hcond]
      rfl

/-- The threads have come to the end of a stop, where the player is. -/
structure Stopped (s : Threads ρ π) (p : Player ρ π) : Prop where
  stop : s.stop = .returned
  loop : s.loop = .ended
  engine : s.deck.rig.engine = p.engine
  queue : s.deck.queue = p.queue
  status : s.deck.status = p.status
  state : s.state = p.state
  quit : s.quit = p.quit

/-- The loop that has been told to quit is joined. -/
theorem exists_run_of_join {l : Loop ρ π} (h : Reaches s l pending) (off : l.phase = .ended)
    (hstop : s.stop = .join) :
    ∃ acts s', s.run acts = some s' ∧ s'.stop = .returned ∧ s'.loop = .ended ∧
      s'.deck = { l.deck with status.playing := false } ∧ s'.state = .stopped ∧
      s'.quit = l.quit := by
  obtain ⟨t, hworks, ht⟩ := h
  obtain ⟨acts, hrun⟩ := exists_run_of_works hworks
  have hloop : t.loop = .ended := by rw [ht.loop, off]; rfl
  have hjoin : t.stop = .join := (stop_of_works hworks).1.trans hstop
  have hreturn : t.run [.stop .join, .stop .lowerFlag, .stop .markStopped] = some
      { t with deck.status.playing := false, state := .stopped, stop := .returned } := by
    refine run_cons.2 ⟨_, .join hjoin hloop, ?_⟩
    refine run_cons.2 ⟨_, .lowerFlagAgain rfl, ?_⟩
    exact run_single (.markStopped rfl)
  exact ⟨_, _, run_append hrun hreturn, rfl, hloop, by rw [← ht.deck], rfl, ht.quit⟩

/-- A stop of a stream at rest is something that its threads do. -/
theorem AtRest.exists_run_of_stop (h : AtRest s p held running) :
    ∃ acts s', s.run acts = some s' ∧ Stopped s' p.stop := by
  obtain ⟨events, rig, happroach, hasked⟩ := h.run_approach
  let held' : Held π :=
    { held with pipeline := rig.pipeline, pending := held.pending ++ events ++ [.wake] }
  have hheld : (p.askedToQuit held).held = some held' := by rw [hasked]
  let l : Loop ρ π := (p.askedToQuit held).loop held' running
  have hquit : l.quit = true := congrArg Player.quit hasked
  have hclosed : l.deck.queue.closed = true := by
    change (p.askedToQuit held).queue.closed = true
    rw [hasked]
    rfl
  have hpending : l.pending ≠ [] := by simp [l, held', Player.loop]
  have hshows : Shows
      { s with
        deck := ⟨s.deck.queue.close, s.deck.status, rig⟩
        state := .stopping
        pending := s.pending ++ events ++ [.wake]
        quit := true
        stop := .join } l (.ofPhase l.phase) l.pending := by
    refine ⟨?_, ?_, h.shows.feed, hquit.symm, h.shows.loop, fun hn => ?_⟩
    · simp [l, Player.loop, hasked, h.shows.deck, held']
    · simp [l, Player.loop, hasked]
    · simp [l, Player.loop, held', h.shows.pending hn]
  -- the loop runs out while the stop waits for it
  have hsettle := reaches_settle_of_quit hshows hquit hclosed hpending
  have hended := Loop.phase_settle_of_quit hquit hclosed hpending
  obtain ⟨acts, s', hrun, hstop, hloop, hdeck, hstate, hquit'⟩ :=
    exists_run_of_join hsettle hended rfl
  have hp : p.stop =
      { (p.askedToQuit held).withLoop held' l.settle with
        status := { l.settle.deck.status with playing := false }
        state := .stopped
        held := none } := by
    rw [Player.stop_of_held h.holds, Player.runOut_eq, Player.settle_of_running hheld h.runs]
    rfl
  refine ⟨approach ++ acts, s', run_append happroach hrun, ?_⟩
  rw [hp]
  have hquit'' : s'.quit = (p.askedToQuit held).quit :=
    hquit'.trans (Loop.settle_steps l).frame.2.1
  exact ⟨hstop, hloop, by rw [hdeck]; rfl, by rw [hdeck]; rfl, by rw [hdeck], hstate, hquit''⟩

/-- What a player goes through at rest, from the start of a stream to its stop, is one schedule of
the threads of its pipeline. -/
theorem exists_run_of_stop (hh : p.held = some held) (hr : held.running = none)
    (hquit : p.quit = false) {turns : List (Player.Turn ρ)}
    (hplay : ∀ turn ∈ turns, turn.inPlay) :
    ∃ acts s, (begin p held).run acts = some s ∧ Stopped s (p.start.2.after turns).stop := by
  obtain ⟨acts, s, held', running, hrun, hrest⟩ := (plays_start hh hr hquit).turns hplay
  obtain ⟨acts', s', hrun', hstopped⟩ := hrest.exists_run_of_stop
  exact ⟨acts ++ acts', s', run_append hrun hrun', hstopped⟩

end Threads

end StandbyStream
