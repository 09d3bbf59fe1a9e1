import StandbyStream.Proofs.Player.Hearing

/-!
# Demand and supply

A pull that finds no frame waits for one, and events that are posted meanwhile wait behind it. When
a frame comes in time it is delivered by that pull, and the events follow in their order. All this
ends like the same submitted and posted the other way round (`Player.submit_of_waiting`): a pull
that waits is a demand before the events that wait behind it (`Loop.heed_awaiting`), and what is
raised together is heard one by one.
-/

namespace StandbyStream

/-- A push into an open queue that is empty leaves the frame alone in it. -/
theorem FrameQueue.frames_push_of_empty {q : FrameQueue} (hopen : q.closed = false)
    (empty : q.frames = []) (frame : Frame) : (q.push frame).2.frames = [frame] := by
  have hc : ¬ q.closed = true := by simp [hopen]
  rw [push.eq_def, if_neg hc]
  simp [empty]

variable {ρ π : Type}

namespace Loop

/-- The live input is on air, the queue is open and empty, and nothing is left to handle unless a
pull waits. -/
structure Hungry (l : Loop ρ π) : Prop where
  on : l.phase ≠ .ended
  live : ¬ l.feed.Idle
  queueOpen : l.deck.queue.closed = false
  empty : l.deck.queue.frames = []
  caughtUp : l.CaughtUp

/-- A demand and events have been raised for a hungry loop: a pull waits, and all but its demand
waits behind it. -/
def awaiting (l : Loop ρ π) (events : List Event) : Loop ρ π :=
  { l with phase := .pulling, pending := (l.agenda ++ .needData :: events).tail }

theorem enqueue_awaiting (l : Loop ρ π) (events later : List Event) :
    (l.awaiting events).enqueue later = l.awaiting (events ++ later) := by
  have on : (l.awaiting events).phase ≠ .ended := nofun
  have htail : (l.agenda ++ .needData :: events).tail ++ later =
      (l.agenda ++ .needData :: (events ++ later)).tail := by
    rw [← List.tail_append_of_ne_nil (by simp), List.append_assoc, List.cons_append]
  rw [enqueue_of_on on, awaiting, awaiting, ← htail]

variable [MediaEngine ρ π] {l : Loop ρ π}

/-! ## Pulls that wait -/

/-- In a hungry loop a pull waits, whatever waits behind it. -/
theorem Hungry.still_awaiting (h : l.Hungry) (hp : l.patience = .lasting) (events : List Event) :
    (l.awaiting events).Still := by
  intro _
  have live : ¬ (l.awaiting events).feed.Idle := h.live
  exact pull_of_patient live h.queueOpen h.empty hp

/-- The pull that waits is the first demand on the agenda. -/
theorem heed_awaiting (on : l.phase ≠ .ended) (h : l.CaughtUp) (events : List Event) :
    (l.awaiting events).heed = (l.enqueue (.needData :: events)).heed := by
  have hagenda : .needData :: (l.agenda ++ .needData :: events).tail =
      l.agenda ++ .needData :: events := by
    cases hp : l.phase with
    | ended => exact absurd hp on
    | pulling => simp [agenda, hp]
    | listening => simp [agenda, hp, h (by simp [hp])]
  have hwaiting : (l.awaiting events).heed = _ :=
    heed_waiting { l with phase := .listening } (l.agenda ++ .needData :: events).tail
  rw [hwaiting, heed_enqueue_of_on on, hagenda]

theorem settle_awaiting (on : l.phase ≠ .ended) (h : l.CaughtUp) (events : List Event) :
    (l.awaiting events).settle = (l.enqueue (.needData :: events)).settle := by
  rw [settle_eq, settle_eq, heed_awaiting on h]

/-- The frame for which a pull has been waiting is pushed before anything else happens, and nothing
happens after it if it is refused. -/
theorem told_of_supply {l : Loop (Tape ρ) (Taped π)} {frame : Frame} (live : ¬ l.feed.Idle)
    (hopen : l.deck.queue.closed = false) (hq : l.deck.queue.frames = [frame])
    (events : List Event) :
    ∃ (accepted : Bool) (rest : List (Call × Bool)),
      l.deck.rig.Told (l.awaiting events).settle.deck.rig
        ((.push (l.feed.stamp frame), accepted) :: rest) ∧
      (accepted = false → rest = [] ∧ (l.awaiting events).settle.phase = .ended) := by
  have hheed : (l.awaiting events).heed =
      l.pull.proceed (l.agenda ++ .needData :: events).tail := by
    have hwaiting : (l.awaiting events).heed = _ :=
      heed_waiting l (l.agenda ++ .needData :: events).tail
    rw [hwaiting, handleAll_cons, handle]
  rw [settle_eq, hheed]
  generalize (l.agenda ++ .needData :: events).tail = pending
  -- the pull finds the frame; whether the events follow depends on how the push ends
  have hpull := pull_of_frame live hopen hq
  rcases hpush : MediaEngine.push (l.feed.stamp frame) l.deck.rig with ⟨fault | _, rig⟩
  · rw [hpush] at hpull
    have off : l.pull.phase = .ended := by rw [hpull]; rfl
    rw [proceed_of_ended off, serveDemand_of_ended off, hpull]
    exact ⟨false, [], Rig.told_of_push hpush, fun _ => ⟨rfl, rfl⟩⟩
  · rw [hpush] at hpull
    have hproceed : Steps l.pull (l.pull.proceed pending) := proceed_steps l.pull pending
    obtain ⟨rest, hrest⟩ := Steps.told (hproceed.trans (serveDemand_steps _ _))
    have hfirst : l.deck.rig.Told l.pull.deck.rig [(.push (l.feed.stamp frame), true)] := by
      rw [hpull]
      exact Rig.told_of_push hpush
    refine ⟨true, rest, hfirst.trans hrest, ?_⟩
    intro hf
    cases hf

end Loop

namespace Player

/-- Something is done to the player so soon that no wait is over meanwhile. -/
def inTime (p : Player ρ π) (f : Player ρ π → Player ρ π) : Player ρ π :=
  { f { p with patience := .lasting } with patience := p.patience }

variable [MediaEngine ρ π] {p : Player ρ π} {held : Held π} {running : Running}

/-- What is posted for a loop whose pull waits only waits behind it. -/
theorem postAll_of_still {l : Loop ρ π} (hp : l.patience = p.patience) (hq : l.quit = p.quit)
    (on : l.phase = .pulling) (h : l.Still) (events : List Event) :
    (p.withLoop held l).postAll events = p.withLoop held (l.enqueue events) := by
  induction events generalizing l with
  | nil =>
      rw [Loop.enqueue_nil]
      rfl
  | cons event rest ih =>
      obtain ⟨hpatience, hquit⟩ := l.enqueue_frame [event]
      have hon : l.enqueue [event] = { l with pending := l.pending ++ [event] } :=
        Loop.enqueue_of_on (by simp [on]) _
      have on' : (l.enqueue [event]).phase = .pulling := by rw [hon, on]
      have hstill : (l.enqueue [event]).Still := h.leave _
      have hfirst : ((p.withLoop held l).post event).2 = p.withLoop held (l.enqueue [event]) := by
        rw [post_eq, enqueue_withLoop hp hq, settle_withLoop (hpatience.trans hp) (hquit.trans hq),
          Loop.settle_of_still on' hstill]
      calc
        (p.withLoop held l).postAll (event :: rest)
          = (p.withLoop held (l.enqueue [event])).postAll rest := congrArg (postAll · rest) hfirst
        _ = p.withLoop held ((l.enqueue [event]).enqueue rest) :=
          ih (hpatience.trans hp) (hquit.trans hq) on' hstill
        _ = p.withLoop held (l.enqueue (event :: rest)) := by
          rw [← Loop.enqueue_append, List.singleton_append]

/-- A demand makes the pull of a hungry loop wait, and what is posted then waits behind it. -/
theorem postAll_of_hungry (hh : p.held = some held) (hr : held.running = some running)
    (h : (p.loop held running).Hungry) (hp : p.patience = .lasting) (events : List Event) :
    p.postAll (.needData :: events) =
      p.withLoop held ((p.loop held running).awaiting events) := by
  have hstill : ((p.loop held running).awaiting []).Still := h.still_awaiting hp []
  obtain ⟨hpatience, hquit⟩ := (p.loop held running).enqueue_frame [.needData]
  have hfirst : (p.post .needData).2 = p.withLoop held ((p.loop held running).awaiting []) := by
    rw [post_eq, enqueue_of_running hh hr, settle_withLoop hpatience hquit,
      ← Loop.settle_awaiting h.on h.caughtUp, Loop.settle_of_still rfl hstill]
  calc
    p.postAll (.needData :: events)
      = (p.withLoop held ((p.loop held running).awaiting [])).postAll events :=
        congrArg (postAll · events) hfirst
    _ = p.withLoop held (((p.loop held running).awaiting []).enqueue events) :=
        postAll_of_still rfl rfl rfl hstill events
    _ = p.withLoop held ((p.loop held running).awaiting events) := by
        rw [Loop.enqueue_awaiting, List.nil_append]

theorem inTime_postAll (hh : p.held = some held) (hr : held.running = some running)
    (h : (p.loop held running).Hungry) (events : List Event) :
    p.inTime (·.postAll (.needData :: events)) =
      p.withLoop held ((p.loop held running).awaiting events) := by
  let patient : Player ρ π := { p with patience := .lasting }
  have hh' : patient.held = some held := hh
  have h' : (patient.loop held running).Hungry :=
    ⟨h.on, h.live, h.queueOpen, h.empty, h.caughtUp⟩
  have hall := postAll_of_hungry hh' hr h' rfl events
  exact congrArg (fun q : Player ρ π => { q with patience := p.patience }) hall

/-- The player once a frame has been submitted and nothing has come of it yet. -/
def supplied (p : Player ρ π) (frame : Frame) : Player ρ π :=
  { p with queue := (p.queue.push frame).2 }

/-- A frame comes while a pull waits. -/
theorem submit_awaiting (p : Player ρ π) (held : Held π) (running : Running) (frame : Frame)
    (events : List Event) :
    (p.withLoop held ((p.loop held running).awaiting events)).submit frame =
      (p.supplied frame).withLoop held
        (((p.supplied frame).loop held running).awaiting events).settle := by
  have hsubmit : (p.withLoop held ((p.loop held running).awaiting events)).submit frame =
      ((p.supplied frame).withLoop held
        (((p.supplied frame).loop held running).awaiting events)).settle := rfl
  rw [hsubmit, settle_withLoop rfl rfl]

/-- The frame might as well have come before the demand. -/
theorem submit_of_hungry (hh : p.held = some held) (hr : held.running = some running)
    (h : (p.loop held running).Hungry) (frame : Frame) (events : List Event) :
    (p.withLoop held ((p.loop held running).awaiting events)).submit frame =
      ((p.supplied frame).heed.hearAll (.needData :: events)).settle := by
  have on : ((p.supplied frame).loop held running).phase ≠ .ended := h.on
  have hcaughtUp : ((p.supplied frame).loop held running).CaughtUp := h.caughtUp
  have hh' : (p.supplied frame).held = some held := hh
  obtain ⟨hpatience, hquit⟩ :=
    ((p.supplied frame).loop held running).enqueue_frame (.needData :: events)
  have hsettle : ((p.supplied frame).withLoop held _).settle = _ :=
    settle_withLoop hpatience hquit
  rw [submit_awaiting, Loop.settle_awaiting on hcaughtUp, hearAll_heed, settle_heed,
    enqueue_of_running hh' hr, hsettle]

/-- The calls that come of the frame. -/
theorem log_submit_of_hungry {p : Player (Tape ρ) (Taped π)} {held : Held (Taped π)}
    {running : Running} (h : (p.loop held running).Hungry) (frame : Frame) (events : List Event) :
    let late := (p.withLoop held ((p.loop held running).awaiting events)).submit frame
    ∃ (accepted : Bool) (rest : List (Call × Bool)),
      late.engine.log = p.engine.log ++
        Log.entries held.pipeline.number ((.push (running.feed.stamp frame), accepted) :: rest) ∧
      (accepted = false → rest = [] ∧ late.loopEnded = true) := by
  intro late
  have hlate : late = _ := p.submit_awaiting held running frame events
  have live : ¬ ((p.supplied frame).loop held running).feed.Idle := h.live
  have hopen : (p.supplied frame).queue.closed = false :=
    (p.queue.closed_push frame).trans h.queueOpen
  have hq : (p.supplied frame).queue.frames = [frame] :=
    FrameQueue.frames_push_of_empty h.queueOpen h.empty frame
  obtain ⟨accepted, rest, htold, hrefused⟩ := Loop.told_of_supply live hopen hq events
  refine ⟨accepted, rest, ?_, ?_⟩
  · rw [hlate]
    exact htold.2
  · intro hf
    obtain ⟨hrest, hended⟩ := hrefused hf
    refine ⟨hrest, ?_⟩
    rw [hlate, loopEnded_of_running (held_withLoop ..) rfl]
    exact beq_iff_eq.2 hended

/-! ## Hungry players -/

omit [MediaEngine ρ π] in
/-- The feed of a loop serves demands as long as the fallback is not on air. -/
theorem Agrees.live {ledger : Ledger} {p : Player (Tape ρ) (Taped π)} (h : p.Agrees ledger)
    {held : Held (Taped π)} {running : Running} (hh : p.held = some held)
    (hr : held.running = some running) (off : p.status.onFallback = false) :
    ¬ running.feed.Idle := by
  have hl := (h.held held hh).loop running hr
  have hflag : ¬ (p.status.onFallback = true) := by simp [off]
  rintro (hmode | hfailed)
  · apply hflag
    exact hl.status.flag.2 (.inl (hl.feed.symm.trans hmode))
  · apply hflag
    exact hl.branch.symm.trans hfailed

/-- A stream that plays without the fallback on air and has no frame left is hungry. -/
theorem hungry_of_run (engine : ρ) (settings : PlayerSettings) (turns : List (Turn ρ)) :
    let p : Player ρ π := (new engine settings).after turns
    p.state = .playing → p.status.onFallback = false → p.queue.frames = [] →
      ∃ held running, p.held = some held ∧ held.running = some running ∧
        (p.loop held running).Hungry := by
  intro p hstate off empty
  have hsituation : Situation ((new engine settings : Player ρ π).ledgerOf .blank turns) p :=
    (Situation.new engine settings).after turns
  have hcaughtUp : p.CaughtUp := (CaughtUp.new engine settings).after turns
  let taped : Player (Tape ρ) (Taped π) :=
    (new (.fresh engine) settings).after (turns.map Turn.onTape)
  have huntaped : taped.untaped = p :=
    (after_untaped (new (.fresh engine) settings : Player (Tape ρ) (Taped π)) turns).symm
  have hagrees : taped.Agrees _ := (Agrees.new engine settings).after turns
  generalize (new engine settings : Player ρ π).ledgerOf .blank turns = ledger at hsituation
  cases hsituation with
  | fresh _ state => exact absurd (hstate.symm.trans state) nofun
  | built _ _ state => exact absurd (hstate.symm.trans state) nofun
  | stopped _ state => exact absurd (hstate.symm.trans state) nofun
  | forfeited _ state => exact absurd (hstate.symm.trans state) nofun
  | @started _ held running hh hr shown =>
      have on : (p.loop held running).phase ≠ .ended := by
        intro hended
        exact absurd (hstate.symm.trans (shown.off hended).1) nofun
      -- what is on air is known from the tape
      have hheld : taped.held.map Held.untaped = some held :=
        (congrArg Player.held huntaped).trans hh
      obtain ⟨held', hh', rfl⟩ := Option.map_eq_some_iff.1 hheld
      have hoff : taped.status.onFallback = false :=
        (congrArg (fun q : Player ρ π => q.status.onFallback) huntaped).trans off
      have live : ¬ running.feed.Idle := hagrees.live hh' hr hoff
      exact ⟨_, running, hh, hr, on, live, shown.queueOpen, empty, hcaughtUp _ running hh hr⟩

/-- A frame that comes while a pull waits, whatever the player has gone through before, as long as
it plays, the fallback is not on air and no frame is left. A demand makes a pull wait; what is
posted then waits behind it, and nothing else changes. When the frame comes, it is delivered by that
pull, and the events follow in their order, up to the first that ends the loop. This ends like the
frame submitted first and the events raised afterwards, one by one; for an engine whose pipelines
raise no demands by themselves, like the events posted afterwards. The calls are the same, too: the
frame is pushed before any other call, and it is the last if it is refused. -/
theorem submit_of_waiting :
    (∀ (engine : ρ) (settings : PlayerSettings) (turns : List (Turn ρ)) (frame : Frame)
        (events : List Event),
      let p : Player ρ π := (new engine settings).after turns
      p.state = .playing → p.status.onFallback = false → p.queue.frames = [] →
      let waiting := p.inTime (·.postAll (.needData :: events))
      let late := waiting.submit frame
      (waiting.waits = true ∧ waiting.engine = p.engine ∧ waiting.queue = p.queue ∧
        waiting.snapshot = p.snapshot) ∧
      (p.patience = .lasting → waiting = p.postAll (.needData :: events)) ∧
      late = ((p.supplied frame).heed.hearAll (.needData :: events)).settle ∧
      (∀ earlier later, .needData :: events = earlier ++ later →
        ((p.supplied frame).heed.hearAll earlier).loopEnded = true →
          late = (p.supplied frame).heed.hearAll earlier) ∧
      (Unprompted ρ → late = (p.submit frame).postAll (.needData :: events))) ∧
    (∀ (engine : ρ) (settings : PlayerSettings) (turns : List (Turn ρ)) (frame : Frame)
        (events : List Event),
      let p : Player (Tape ρ) (Taped π) :=
        (new (.fresh engine) settings).after (turns.map Turn.onTape)
      p.state = .playing → p.status.onFallback = false → p.queue.frames = [] →
      let late := (p.inTime (·.postAll (.needData :: events))).submit frame
      p.untaped = (new engine settings).after turns ∧
      (Unprompted ρ →
        late.engine.log = ((p.submit frame).postAll (.needData :: events)).engine.log) ∧
      ∃ held running, p.held = some held ∧ held.running = some running ∧
        ∃ (accepted : Bool) (rest : List (Call × Bool)),
          late.engine.log = p.engine.log ++
            Log.entries held.pipeline.number
              ((.push (running.feed.stamp frame), accepted) :: rest) ∧
          (accepted = false → rest = [] ∧ late.loopEnded = true)) ∧
    Unprompted Recorder := by
  refine ⟨?_, ?_, Recorder.unprompted⟩
  · intro engine settings turns frame events p hstate off empty waiting late
    obtain ⟨held, running, hh, hr, hungry⟩ := hungry_of_run engine settings turns hstate off empty
    have hwaiting : waiting = _ := inTime_postAll hh hr hungry events
    have hlate : late = ((p.supplied frame).heed.hearAll (.needData :: events)).settle := by
      rw [← submit_of_hungry hh hr hungry, ← hwaiting]
    refine ⟨?_, ?_, hlate, ?_, ?_⟩
    · rw [hwaiting]
      exact ⟨rfl, rfl, rfl, rfl⟩
    · intro hp
      rw [hwaiting, postAll_of_hungry hh hr hungry hp]
    · intro earlier later hevents hended
      rw [hlate, hevents]
      exact settle_hearAll_of_loopEnded hended later
    · intro hun
      rw [hlate, settle_hearAll_of_unprompted hun]
      rfl
  · intro engine settings turns frame events p hstate off empty late
    obtain ⟨held, running, hh, hr, hungry⟩ :=
      hungry_of_run (Tape.fresh engine) settings (turns.map Turn.onTape) hstate off empty
    have hwaiting : p.inTime (·.postAll (.needData :: events)) = _ :=
      inTime_postAll hh hr hungry events
    have hcalls := log_submit_of_hungry hungry frame events
    rw [← hwaiting] at hcalls
    refine ⟨(after_untaped _ turns).symm, ?_, held, running, hh, hr, hcalls⟩
    intro hun
    have hlate : late = ((p.supplied frame).heed.hearAll (.needData :: events)).settle := by
      rw [← submit_of_hungry hh hr hungry, ← hwaiting]
    rw [hlate, settle_hearAll_of_unprompted hun.onTape]
    rfl

/-- A pipeline has been built and started. -/
def opening : List (Turn Recorder) :=
  [buildFor "udp://h:1", .action .start]

/-- Behind the pull that waits, another demand is raised and the stream ends. -/
def meanwhile : List Event :=
  [.needData, .endOfStream, .wake]

theorem submit_of_meanwhile :
    let frame : Frame := ⟨5, [1]⟩
    let p : Player Recorder Nat := (new (.withFaults .none) ⟨100, 4⟩).after opening
    let patient : Player Recorder Nat := (new (.withFaults .none) ⟨60000, 4⟩).after opening
    let refused : Player (Tape Recorder) (Taped Nat) :=
      (new (.fresh (.withFaults { RecorderFaults.none with push := some .flushing }))
        ⟨100, 4⟩).after (opening.map Turn.onTape)
    let waiting := p.inTime (·.postAll (.needData :: meanwhile))
    (waiting.waits = true ∧
      waiting.submit frame = (p.submit frame).postAll (.needData :: meanwhile) ∧
      waiting.submit frame =
        (p.supplied frame).heed.hearAll [.needData, .needData, .endOfStream]) ∧
    patient.inTime (·.postAll (.needData :: meanwhile)) =
      patient.postAll (.needData :: meanwhile) ∧
    ((refused.inTime (·.postAll (.needData :: meanwhile))).submit frame).engine.log =
        ((refused.submit frame).postAll (.needData :: meanwhile)).engine.log ∧
      ((refused.submit frame).postAll (.needData :: meanwhile)).engine.log.callsOf 0 =
        [(.play, true), (.push ⟨0, [1]⟩, false)] := by
  dsimp only
  obtain ⟨hrun, htape, hun⟩ := @submit_of_waiting Recorder Nat _
  obtain ⟨⟨hwaits, -⟩, -, -, hended, hposted⟩ :=
    hrun (.withFaults .none) ⟨100, 4⟩ opening ⟨5, [1]⟩ meanwhile (by decide +kernel)
      (by decide +kernel) (by decide +kernel)
  obtain ⟨-, hpatient, -⟩ :=
    hrun (.withFaults .none) ⟨60000, 4⟩ opening ⟨5, [1]⟩ meanwhile (by decide +kernel)
      (by decide +kernel) (by decide +kernel)
  obtain ⟨-, hcalls, -⟩ :=
    htape (.withFaults { RecorderFaults.none with push := some .flushing }) ⟨100, 4⟩ opening
      ⟨5, [1]⟩ meanwhile (by decide +kernel) (by decide +kernel) (by decide +kernel)
  refine ⟨⟨hwaits, hposted hun, ?_⟩, hpatient (by decide +kernel), hcalls hun, by decide +kernel⟩
  exact hended [.needData, .needData, .endOfStream] [.wake] rfl (by decide +kernel)

end Player

end StandbyStream
