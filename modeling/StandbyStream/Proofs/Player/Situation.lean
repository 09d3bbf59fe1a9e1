import StandbyStream.Engine.Recorder
import StandbyStream.Proofs.Player.Turn

/-!
# Where a player stands

The state, the flags, the loop, the held pipeline and the queue of a player are written by different
operations, but together they only ever show one of the five situations of `Situation`. Which of
them is possible follows from the answers of the player, which its `Ledger` sums up.

What the player publishes is right in each of them (`view_of_run`), with one exception. A build
gives an unstarted pipeline up before it can fail, and a build that then fails leaves the state as
it was: from then on the state is `built` with nothing to start, until a build succeeds or the
stream is stopped (`built_of_run`, `built_without_pipeline`).
-/

namespace StandbyStream

variable {ρ π : Type}

namespace Loop

/-- What a started loop shows: it plays, or it has ended and is stopped; and its queue is open. -/
structure Shown (l : Loop ρ π) : Prop where
  queueOpen : l.deck.queue.closed = false
  on : l.phase ≠ .ended → l.state = .playing ∧ l.deck.status.playing = true
  off : l.phase = .ended → l.state = .stopped ∧ l.deck.status.playing = false

/-- A loop that ends shows it. -/
theorem Shown.finish {l : Loop ρ π} (h : l.Shown) (on : l.phase ≠ .ended) (failed : Bool) :
    (l.finish failed).Shown := by
  have hstate : stateAfterEnd l.state = .stopped := by
    rw [(h.on on).1]
    rfl
  exact ⟨h.queueOpen, fun hne => absurd rfl hne, fun _ => ⟨hstate, rfl⟩⟩

variable [MediaEngine ρ π] {l l' : Loop ρ π}

theorem Step.shown (h : Step l l') (hl : l.Shown) : l'.Shown := by
  have on := h.phase_ne_ended
  have hshown := hl.on on
  cases h with
  | idle => exact ⟨hl.queueOpen, fun _ => hshown, nofun⟩
  | waiting => exact ⟨hl.queueOpen, fun _ => hshown, nofun⟩
  | delivered => exact ⟨hl.queueOpen, fun _ => hshown, nofun⟩
  | switched => exact ⟨hl.queueOpen, fun _ => hshown, nofun⟩
  | handled => exact ⟨hl.queueOpen, hl.on, hl.off⟩
  | demanded => exact ⟨hl.queueOpen, hl.on, hl.off⟩
  | closed => exact hl.finish on false
  | ended => exact hl.finish on false
  | failed => exact hl.finish on true
  | refused =>
      refine Shown.finish ?_ ?_ true
      · exact ⟨hl.queueOpen, hl.on, hl.off⟩
      · exact on
  | stuck =>
      refine Shown.finish ?_ ?_ true
      · exact ⟨hl.queueOpen, hl.on, hl.off⟩
      · exact on

/-- A pipeline that has just been built plays when its loop begins, or is stopped if it cannot. -/
theorem shown_begin (hopen : l.deck.queue.closed = false) (hstate : l.state = .built)
    (hoff : l.deck.status.playing = false) : l.begin.Shown := by
  rw [begin.eq_def]
  split
  · refine ⟨hopen, fun hne => absurd rfl hne, fun _ => ⟨?_, hoff⟩⟩
    rw [failToPlay, hstate]
    rfl
  · refine ⟨hopen, fun _ => ⟨?_, rfl⟩, ?_⟩
    · rw [if_pos hstate]
    · intro hended
      cases hended

end Loop

namespace Player

/-! ## Situations -/

/-- What the answers of a player amount to. -/
structure Ledger where
  /-- A build has succeeded. -/
  built : Bool
  /-- An unstarted pipeline has been given up for a build that failed; since then no build has
  succeeded and the stream has not been stopped. -/
  forfeited : Bool

/-- Nothing has been asked of the player yet. -/
def Ledger.blank : Ledger :=
  ⟨false, false⟩

/-- Where a player stands, by its ledger. -/
inductive Situation : Ledger → Player ρ π → Prop
  | fresh {p : Player ρ π} (hh : p.held = none) (state : p.state = .unbuilt)
      (off : p.status.playing = false) :
      Situation ⟨false, false⟩ p
  | built {p : Player ρ π} {held : Held π} (hh : p.held = some held) (hr : held.running = none)
      (state : p.state = .built) (off : p.status.playing = false)
      (queueOpen : p.queue.closed = false) :
      Situation ⟨true, false⟩ p
  | started {p : Player ρ π} {held : Held π} {running : Running} (hh : p.held = some held)
      (hr : held.running = some running) (shown : (p.loop held running).Shown) :
      Situation ⟨true, false⟩ p
  | stopped {p : Player ρ π} (hh : p.held = none) (state : p.state = .stopped)
      (off : p.status.playing = false) :
      Situation ⟨true, false⟩ p
  | forfeited {p : Player ρ π} (hh : p.held = none) (state : p.state = .built)
      (off : p.status.playing = false) :
      Situation ⟨true, true⟩ p

variable [MediaEngine ρ π]

/-- The ledger after a turn, by the answer to it. -/
def ledgerAfter (p : Player ρ π) (ledger : Ledger) : Turn ρ → Ledger
  | .action (.build request) =>
    match (p.build request).1 with
    | .ok () => ⟨true, false⟩
    | .error .playing => ledger
    | .error _ => { ledger with forfeited := ledger.forfeited || p.stage == some false }
  | .action .stop => { ledger with forfeited := false }
  | _ => ledger

/-- The ledger after turns, the one before them given. -/
def ledgerOf (p : Player ρ π) (ledger : Ledger) : List (Turn ρ) → Ledger
  | [] => ledger
  | turn :: turns => (p.take turn).ledgerOf (p.ledgerAfter ledger turn) turns

/-- A build that has succeeded is not taken back. -/
theorem built_ledgerAfter {ledger : Ledger} (h : ledger.built = true) (p : Player ρ π)
    (turn : Turn ρ) : (p.ledgerAfter ledger turn).built = true := by
  cases turn with
  | action a =>
      cases a with
      | build request =>
          rw [ledgerAfter]
          rcases (p.build request).1 with cause | _
          · cases cause <;> exact h
          · rfl
      | _ => exact h
  | expiry => exact h

/-- What each of some turns keeps, the ledger along with it, holds after all of them. -/
theorem after_induction {I : Ledger → Player ρ π → Prop} {turns : List (Turn ρ)}
    (step : ∀ turn ∈ turns, ∀ {ledger : Ledger} {p : Player ρ π}, I ledger p →
      I (p.ledgerAfter ledger turn) (p.take turn))
    {ledger : Ledger} {p : Player ρ π} (h : I ledger p) :
    I (p.ledgerOf ledger turns) (p.after turns) := by
  induction turns generalizing ledger p with
  | nil => exact h
  | cons turn turns ih =>
      have hfirst := step turn List.mem_cons_self h
      refine ih ?_ hfirst
      intro turn' hm
      exact step turn' (List.mem_cons_of_mem turn hm)

namespace Situation

variable {ledger : Ledger} {p : Player ρ π}

omit [MediaEngine ρ π] in
theorem of_unstarted (h : Situation ledger p) {held : Held π} (hh : p.held = some held)
    (hr : held.running = none) :
    ledger = ⟨true, false⟩ ∧ p.state = .built ∧ p.status.playing = false ∧
      p.queue.closed = false := by
  cases h with
  | built _ _ state off queueOpen => exact ⟨rfl, state, off, queueOpen⟩
  | started hh' hr' =>
      rw [hh] at hh'
      cases hh'
      rw [hr] at hr'
      cases hr'
  | fresh hh' => rw [hh] at hh'; cases hh'
  | stopped hh' => rw [hh] at hh'; cases hh'
  | forfeited hh' => rw [hh] at hh'; cases hh'

omit [MediaEngine ρ π] in
theorem of_started (h : Situation ledger p) {held : Held π} {running : Running}
    (hh : p.held = some held) (hr : held.running = some running) :
    ledger = ⟨true, false⟩ ∧ (p.loop held running).Shown := by
  cases h with
  | built hh' hr' =>
      rw [hh] at hh'
      cases hh'
      rw [hr] at hr'
      cases hr'
  | started hh' hr' shown =>
      rw [hh] at hh'
      cases hh'
      rw [hr] at hr'
      cases hr'
      exact ⟨rfl, shown⟩
  | fresh hh' => rw [hh] at hh'; cases hh'
  | stopped hh' => rw [hh] at hh'; cases hh'
  | forfeited hh' => rw [hh] at hh'; cases hh'

omit [MediaEngine ρ π] in
/-- The situation is about the published view, about what is held, and about whether the queue is
open. -/
theorem of_eq (h : Situation ledger p) {p' : Player ρ π} (hh' : p'.held = p.held)
    (hstate : p'.state = p.state) (hstatus : p'.status = p.status)
    (hqueue : p'.queue.closed = p.queue.closed) : Situation ledger p' := by
  have hplaying : p'.status.playing = p.status.playing := congrArg Status.playing hstatus
  cases h with
  | fresh hh state off =>
      exact .fresh (hh'.trans hh) (hstate.trans state) (hplaying.trans off)
  | built hh hr state off queueOpen =>
      exact .built (hh'.trans hh) hr (hstate.trans state) (hplaying.trans off)
        (hqueue.trans queueOpen)
  | started hh hr shown =>
      refine .started (hh'.trans hh) hr ⟨hqueue.trans shown.queueOpen, ?_, ?_⟩
      · exact fun on => ⟨hstate.trans (shown.on on).1, hplaying.trans (shown.on on).2⟩
      · exact fun off => ⟨hstate.trans (shown.off off).1, hplaying.trans (shown.off off).2⟩
  | stopped hh state off =>
      exact .stopped (hh'.trans hh) (hstate.trans state) (hplaying.trans off)
  | forfeited hh state off =>
      exact .forfeited (hh'.trans hh) (hstate.trans state) (hplaying.trans off)

/-- A situation lasts through whatever a loop does, except that a loop may end. -/
theorem durable (ledger : Ledger) : Durable (Situation ledger : Player ρ π → Prop) where
  patience := fun h _ => h.of_eq rfl rfl rfl rfl
  pending := by
    intro p held hh h pending
    cases hr : held.running with
    | none =>
        obtain ⟨rfl, state, off, queueOpen⟩ := h.of_unstarted hh hr
        exact .built rfl rfl state off queueOpen
    | some running =>
        obtain ⟨rfl, shown⟩ := h.of_started hh hr
        exact .started rfl rfl ⟨shown.queueOpen, shown.on, shown.off⟩
  begin := by
    intro p held hh hr h
    obtain ⟨rfl, state, off, queueOpen⟩ := h.of_unstarted hh hr
    -- the loop that is put back is the one that has begun
    obtain ⟨hpatience, hquit, -⟩ := p.firstLoop_frame held
    refine .started (held_withLoop ..) rfl ?_
    rw [loop_withLoop hpatience hquit]
    exact Loop.shown_begin queueOpen state off
  step := by
    intro p held running l hh hr hstep h
    obtain ⟨rfl, shown⟩ := h.of_started hh hr
    obtain ⟨hpatience, hquit, -⟩ := hstep.frame
    refine .started (held_withLoop ..) rfl ?_
    rw [loop_withLoop hpatience hquit]
    exact hstep.shown shown

/-- A build leads out of every situation in which it is not refused; where it fails, the state
stays as it was. -/
theorem build (h : Situation ledger p) (request : BuildRequest) :
    Situation (p.ledgerAfter ledger (.action (.build request))) (p.build request).2 := by
  have hend := build_end p request
  rw [ledgerAfter]
  generalize p.build request = result at hend
  cases hend with
  | refused => exact h
  | @failed cause engine free other _ =>
      simp only
      cases h with
      | fresh hh state off =>
          rw [stage, hh]
          exact .fresh rfl state off
      | built hh hr state off _ =>
          -- the unstarted pipeline has been given up, and nothing says so
          rw [stage, hh, Option.map_some, hr]
          exact .forfeited rfl state off
      | started hh hr _ =>
          -- a started pipeline would have had the build refused
          rw [isStarted, hh, Option.any_some, hr] at free
          cases free
      | stopped hh state off =>
          rw [stage, hh]
          exact .stopped rfl state off
      | forfeited hh state off => exact .forfeited rfl state off
  | built => exact .built rfl rfl rfl rfl rfl

/-- Once the stream has been stopped nothing is held, and the state says so. -/
theorem stop (h : Situation ledger p) :
    Situation (p.ledgerAfter ledger (.action .stop)) p.stop := by
  rw [ledgerAfter]
  cases h with
  | fresh hh state off =>
      rw [stop_of_held_none hh, if_pos state]
      exact .fresh hh rfl rfl
  | built hh =>
      rw [stop_of_held hh]
      exact .stopped rfl rfl rfl
  | started hh =>
      rw [stop_of_held hh]
      exact .stopped rfl rfl rfl
  | stopped hh state off =>
      rw [stop_of_held_none hh, state]
      exact .stopped hh rfl rfl
  | forfeited hh state off =>
      rw [stop_of_held_none hh, state]
      exact .stopped hh rfl rfl

theorem take (h : Situation ledger p) (turn : Turn ρ) :
    Situation (p.ledgerAfter ledger turn) (p.take turn) := by
  cases turn with
  | action a =>
      cases a with
      | build request => exact h.build request
      | start => exact (durable ledger).start h
      | stop => exact h.stop
      | submit frame =>
          have hqueue := p.queue.closed_push frame
          exact (durable ledger).submit (h.of_eq rfl rfl rfl hqueue)
      | post event => exact (durable ledger).post h event
      | alter change => exact (durable ledger).alter (h.of_eq rfl rfl rfl rfl)
  | expiry => exact (durable ledger).expire h

theorem after (h : Situation ledger p) (turns : List (Turn ρ)) :
    Situation (p.ledgerOf ledger turns) (p.after turns) :=
  after_induction (fun turn _ _ _ h => h.take turn) h

omit [MediaEngine ρ π] in
theorem new (engine : ρ) (settings : PlayerSettings) :
    Situation .blank (Player.new engine settings : Player ρ π) :=
  .fresh rfl rfl rfl

end Situation

/-! ## What is published -/

/-- The published view of a player is right. Whatever it has gone through: it says that it plays
exactly if its state is `playing`, and this exactly if a loop runs; a loop that has ended is
stopped; no stop is ever under way; the state is `unbuilt` exactly if no build has succeeded; and
as long as a pipeline is held its queue is open. -/
theorem view_of_run (engine : ρ) (settings : PlayerSettings) (turns : List (Turn ρ)) :
    let p : Player ρ π := (new engine settings).after turns
    let ledger : Ledger := (new engine settings : Player ρ π).ledgerOf .blank turns
    (p.status.playing = true ↔ p.state = .playing) ∧
      (p.state = .playing ↔ p.loopRuns = true) ∧
      (p.loopEnded = true → p.state = .stopped) ∧
      p.state ≠ .stopping ∧
      (p.state = .unbuilt ↔ ledger.built = false) ∧
      (p.held.isSome = true → p.queue.closed = false) := by
  intro p ledger
  have h : Situation ledger p := (Situation.new engine settings).after turns
  generalize ledger = ledger at h
  cases h with
  | fresh hh state off => simp [state, off, hh, loopRuns, loopEnded]
  | built hh hr state off queueOpen =>
      simp [state, off, hh, hr, loopRuns, loopEnded, queueOpen]
  | @started _ held running hh hr shown =>
      have queueOpen : p.queue.closed = false := shown.queueOpen
      by_cases hp : running.phase = .ended
      · obtain ⟨state, off⟩ : p.state = .stopped ∧ p.status.playing = false := shown.off hp
        simp [state, off, hh, hr, hp, loopRuns, loopEnded, queueOpen]
      · obtain ⟨state, on⟩ : p.state = .playing ∧ p.status.playing = true := shown.on hp
        simp [state, on, hh, hr, hp, loopRuns, loopEnded, queueOpen]
  | stopped hh state off => simp [state, off, hh, loopRuns, loopEnded]
  | forfeited hh state off => simp [state, off, hh, loopRuns, loopEnded]

/-- A recorder and what it can play. -/
def trialAfter (turns : List (Turn Recorder)) : Player Recorder Nat :=
  (new (.withFaults .none) ⟨100, 4⟩).after turns

/-- The ledger of such turns. -/
def trialLedgerOf (turns : List (Turn Recorder)) : Ledger :=
  (trialAfter []).ledgerOf .blank turns

/-- A build for an address. -/
def buildFor {ρ : Type} (address : String) : Turn ρ :=
  .action (.build ⟨.live, .h264, 640, 480, 25, 1000, address, true⟩)

theorem view_of_ended :
    let p := trialAfter [buildFor "udp://h:1", .action .start, .action (.post .endOfStream)]
    (p.loopEnded = true ∧ p.state = .stopped) ∧ p.held.isSome = true ∧ p.queue.closed = false := by
  intro p
  have hended : p.loopEnded = true := by decide +kernel
  have hheld : p.held.isSome = true := by decide +kernel
  obtain ⟨-, -, hstate, -, -, hopen⟩ := view_of_run (.withFaults .none : Recorder) ⟨100, 4⟩
    [buildFor "udp://h:1", .action .start, .action (.post .endOfStream)]
  exact ⟨⟨hended, hstate hended⟩, hheld, hopen hheld⟩

/-- When the state says `built`. A start is accepted exactly if an unstarted pipeline is held. The
state says the same exactly if no unstarted pipeline has been forfeited; where one has been, the
state is `built` and there is nothing to start. -/
theorem built_of_run (engine : ρ) (settings : PlayerSettings) (turns : List (Turn ρ)) :
    let p : Player ρ π := (new engine settings).after turns
    let ledger : Ledger := (new engine settings : Player ρ π).ledgerOf .blank turns
    (p.start.1 = .ok () ↔ p.stage = some false) ∧
      ((p.state = .built ↔ p.stage = some false) ↔ ledger.forfeited = false) ∧
      (ledger.forfeited = true → p.state = .built ∧ p.start = (.error .nothingBuilt, p)) := by
  intro p ledger
  have h : Situation ledger p := (Situation.new engine settings).after turns
  generalize ledger = ledger at h
  cases h with
  | fresh hh state => simp [start_of_held_none hh, stage, hh, state]
  | built hh hr state => simp [start_of_unstarted hh hr, stage, hh, hr, state]
  | @started _ held running hh hr shown =>
      have state : p.state ≠ .built := by
        by_cases hp : running.phase = .ended
        · have hstate : p.state = .stopped := (shown.off hp).1
          simp [hstate]
        · have hstate : p.state = .playing := (shown.on hp).1
          simp [hstate]
      simp [start_of_running hh hr, stage, hh, hr, state]
  | stopped hh state => simp [start_of_held_none hh, stage, hh, state]
  | forfeited hh state => simp [start_of_held_none hh, stage, hh, state]

/-- A pipeline that has been built is given up for an address that is empty. -/
def forfeit : List (Turn Recorder) :=
  [buildFor "udp://h:1", buildFor ""]

theorem built_of_forfeit :
    (trialLedgerOf forfeit).forfeited = true ∧ (trialAfter forfeit).state = .built ∧
      (trialAfter forfeit).start = (.error .nothingBuilt, trialAfter forfeit) := by
  have hf : (trialLedgerOf forfeit).forfeited = true := by decide +kernel
  obtain ⟨-, -, h⟩ := built_of_run (.withFaults .none : Recorder) ⟨100, 4⟩ forfeit
  exact ⟨hf, h hf⟩

/-- The state does not always say `built` only where there is a pipeline to start: once a pipeline
has been given up for a build that failed, it says so and the next start is refused. -/
theorem built_without_pipeline :
    (trialAfter forfeit).state = .built ∧ (trialAfter forfeit).stage = none ∧
      ¬ ((trialAfter forfeit).state = .built ↔ (trialAfter forfeit).start.1 = .ok ()) := by
  have hstate : (trialAfter forfeit).state = .built := by decide +kernel
  have hstage : (trialAfter forfeit).stage = none := by decide +kernel
  refine ⟨hstate, hstage, ?_⟩
  intro h
  have hstart := h.1 hstate
  rw [start_of_held_none (held_of_stage hstage)] at hstart
  cases hstart

end Player

end StandbyStream
