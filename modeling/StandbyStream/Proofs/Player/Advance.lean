import StandbyStream.Proofs.Player.Hearing
import StandbyStream.Proofs.Player.Situation

/-!
# Events in advance

Events may be posted for a pipeline before it is started. They wait for the loop, and when it has
begun it hears them as it would have heard them one by one (`Player.start_postAll`): beginning does
not touch what waits (`Loop.begin_enqueue`), and what is raised together is heard one by one. So it
does not matter whether a pipeline raises its events before the start or after it
(`Player.start_of_posted`).
-/

namespace StandbyStream

variable {ρ π : Type} [MediaEngine ρ π]

namespace Loop

/-- A loop that begins takes along what waits, unless it cannot play. -/
theorem begin_enqueue {l : Loop ρ π} (on : l.phase ≠ .ended) (events : List Event) :
    (l.enqueue events).begin = l.begin.enqueue events := by
  rw [enqueue_of_on on, begin.eq_def, begin.eq_def]
  simp only
  rcases MediaEngine.play l.deck.rig with ⟨fault | _, rig⟩
  · exact (enqueue_of_ended rfl events).symm
  · rfl

end Loop

namespace Player

/-- The player once its pipeline has been told to play and nothing has been heard yet. -/
def begun (p : Player ρ π) : Player ρ π :=
  match p.held with
  | some held => p.withLoop held (p.firstLoop held)
  | none => p

variable {p : Player ρ π} {held : Held π}

omit [MediaEngine ρ π] in
theorem exists_unstarted (h : p.stage = some false) :
    ∃ held, p.held = some held ∧ held.running = none := by
  obtain ⟨held, hh, hr⟩ := Option.map_eq_some_iff.1 h
  exact ⟨held, hh, Option.isSome_eq_false_iff.1 hr |> Option.isNone_iff_eq_none.1⟩

theorem begun_of_held (hh : p.held = some held) : p.begun = p.withLoop held (p.firstLoop held) := by
  rw [begun, hh]

theorem held_begun (hh : p.held = some held) :
    p.begun.held = some (heldAt held (p.firstLoop held)) := by
  rw [begun_of_held hh, held_withLoop]

theorem start_eq (hh : p.held = some held) (hr : held.running = none) :
    p.start = (.ok (), p.begun.settle) := by
  rw [start_of_unstarted hh hr, begun_of_held hh]

/-- What was raised before the start waits when the loop has begun. -/
theorem begun_enqueue (hh : p.held = some held) (hr : held.running = none) (events : List Event) :
    (p.enqueue events).begun = p.begun.enqueue events := by
  have hs : p.isStarted = false := isStarted_of_unstarted hh hr
  have on : (p.unbegun held).phase ≠ .ended := nofun
  have hfirst : (p.firstLoop held).enqueue events = ((p.unbegun held).enqueue events).begin :=
    (Loop.begin_enqueue on events).symm
  obtain ⟨hpatience, hquit, -⟩ := p.firstLoop_frame held
  rw [begun_of_held hh, enqueue_withLoop hpatience hquit, hfirst, enqueue_of_not_started hs, hh]
  rfl

/-- A pipeline that cannot play has its loop ended before anything is heard. -/
theorem loopEnded_begun {fault : Plain} {rig : Rig ρ π} (hh : p.held = some held)
    (hplay : MediaEngine.play ⟨held.pipeline, p.engine⟩ = (.error fault, rig)) :
    p.begun.loopEnded = true := by
  have hl : p.firstLoop held = _ := Loop.begin.eq_def (p.unbegun held)
  have hplay' : MediaEngine.play (p.unbegun held).deck.rig = (.error fault, rig) := hplay
  rw [hplay'] at hl
  rw [begun_of_held hh, hl]
  rfl

/-- A start hears what was posted before it as if it were posted afterwards, one by one. -/
theorem start_postAll (hh : p.held = some held) (hr : held.running = none) (events : List Event) :
    (p.postAll events).start = (.ok (), (p.begun.heed.hearAll events).settle) := by
  have hs : p.isStarted = false := isStarted_of_unstarted hh hr
  have hh' : (p.enqueue events).held = some { held with pending := held.pending ++ events } := by
    rw [enqueue_of_not_started hs, hh]
    rfl
  rw [postAll_of_not_started hs, start_eq hh' hr, begun_enqueue hh hr, hearAll_heed, settle_heed]

/-- On an engine that raises no demands, events may as well be posted after the start. -/
theorem start_postAll_of_unprompted (hun : Unprompted ρ) (hh : p.held = some held)
    (hr : held.running = none) (events : List Event) :
    (p.postAll events).start.2 = p.start.2.postAll events := by
  rw [start_postAll hh hr, start_eq hh hr, settle_hearAll_of_unprompted hun]

/-- What the pipeline is told by a start, whatever was posted before. -/
theorem log_start {p : Player (Tape ρ) (Taped π)} {held : Held (Taped π)} (hh : p.held = some held)
    (hr : held.running = none) (events : List Event) :
    ∃ (played : Bool) (rest : List (Call × Bool)),
      (p.postAll events).start.2.engine.log =
        p.engine.log ++ Log.entries held.pipeline.number ((.play, played) :: rest) ∧
      (played = false → (p.postAll events).start.2 = p.begun ∧ rest = []) := by
  obtain ⟨played, hplay, hended⟩ := Loop.told_begin (p.unbegun held)
  have hbegun := held_begun hh
  have hlog : p.begun.engine.log =
      p.engine.log ++ Log.entries held.pipeline.number [(.play, played)] := by
    rw [begun_of_held hh]
    exact hplay.2
  have hstart : (p.postAll events).start.2 = (p.begun.enqueue events).settle := by
    rw [start_postAll hh hr, hearAll_heed, settle_heed]
  rw [hstart]
  by_cases off : p.begun.loopEnded = true
  · -- nothing is handled by a loop that ended when it began
    have hstill : (p.begun.enqueue events).settle = p.begun := by
      have hnone : p.begun.enqueue events = p.begun := enqueue_of_loopEnded off events
      rw [hnone, settle_of_loopEnded off]
    exact ⟨played, [], by rw [hstill, hlog], fun _ => ⟨hstill, rfl⟩⟩
  · -- all further calls go to the same pipeline, behind the play
    have hplayed : played ≠ false := by
      intro hp
      apply off
      rw [loopEnded_of_running hbegun rfl]
      exact beq_iff_eq.2 (hended hp)
    have hwaiting : (p.begun.enqueue events).held = some
        { heldAt held (p.firstLoop held) with
          pending := (p.firstLoop held).pending ++ events } := by
      rw [enqueue, if_neg off, hbegun]
      rfl
    have hsame : (p.begun.enqueue events).engine.log = p.begun.engine.log := by
      rw [enqueue, if_neg off]
    obtain ⟨rest, hrest⟩ := log_settle hwaiting rfl
    have hnumber : (heldAt held (p.firstLoop held)).pipeline.number = held.pipeline.number :=
      hplay.1
    refine ⟨played, rest, ?_, fun hp => absurd hp hplayed⟩
    rw [hrest, hsame, hlog, hnumber, List.append_assoc, ← Log.entries_append,
      List.singleton_append]

/-- A start, whatever the player has gone through before and whatever has been posted for the
pipeline in advance: it is answered with success, and it ends like the start of a pipeline for which
the same is raised event by event once the loop has begun. This holds for every engine, the demands
that its pipelines raise by themselves being held back until the list is handled. It is the same
whether the wait of a pull is over after each event or after all of them. Nothing that comes behind
an event that ends the loop is heard, and nothing at all if the pipeline cannot play. If pipelines
raise no demands by themselves, that is to say that events may as well be posted one by one after
the start. The calls are the same, too: the play is the first of them, and the last if it fails. -/
theorem start_of_posted :
    (∀ (engine : ρ) (settings : PlayerSettings) (turns : List (Turn ρ)) (events : List Event),
      let p : Player ρ π := (new engine settings).after turns
      p.stage = some false →
      let early := (p.postAll events).start
      p.state = .built ∧ early = (.ok (), (p.begun.heed.hearAll events).settle) ∧
      (p.begun.heed.hearAll events).lapse = p.begun.hearEach events ∧
      (∀ earlier later, events = earlier ++ later →
        (p.begun.heed.hearAll earlier).loopEnded = true →
          early.2 = p.begun.heed.hearAll earlier) ∧
      (∀ held fault rig, p.held = some held →
        MediaEngine.play ⟨held.pipeline, p.engine⟩ = (.error fault, rig) →
          early.2 = p.begun ∧ p.begun.loopEnded = true) ∧
      (Unprompted ρ →
        early.2 = p.start.2.postAll events ∧ early.2.expire = p.start.2.postEach events)) ∧
    (∀ (p : Player (Tape ρ) (Taped π)) (held : Held (Taped π)) (events : List Event),
      p.held = some held → held.running = none →
      let early := (p.postAll events).start.2
      (p.untaped.postAll events).start.2 = early.untaped ∧
      (Unprompted ρ → early.engine.log = (p.start.2.postAll events).engine.log) ∧
      ∃ (played : Bool) (rest : List (Call × Bool)),
        early.engine.log =
          p.engine.log ++ Log.entries held.pipeline.number ((.play, played) :: rest) ∧
        (played = false → early = p.begun ∧ rest = [])) ∧
    Unprompted Recorder := by
  refine ⟨?_, ?_, Recorder.unprompted⟩
  · intro engine settings turns events p hstage early
    obtain ⟨held, hh, hr⟩ := exists_unstarted hstage
    have hsituation : Situation ((new engine settings : Player ρ π).ledgerOf .blank turns) p :=
      (Situation.new engine settings).after turns
    have hcaughtUp : p.CaughtUp := (CaughtUp.new engine settings).after turns
    obtain ⟨-, hstate, -⟩ := hsituation.of_unstarted hh hr
    have hearly : early = _ := start_postAll hh hr events
    have hprefix : ∀ earlier later, events = earlier ++ later →
        (p.begun.heed.hearAll earlier).loopEnded = true →
          early.2 = p.begun.heed.hearAll earlier := by
      rintro earlier later rfl hended
      rw [hearly]
      exact settle_hearAll_of_loopEnded hended later
    refine ⟨hstate, hearly, p.begun.lapse_hearAll events, hprefix, ?_, ?_⟩
    · intro held' fault rig hh' hplay
      have hended : p.begun.loopEnded = true := loopEnded_begun hh' hplay
      have hheed : p.begun.heed = p.begun := heed_of_loopEnded hended
      have hnone := hprefix [] events rfl
      rw [hheed] at hnone
      exact ⟨hnone hended, hended⟩
    · intro hun
      have hend : early.2.CaughtUp := (hcaughtUp.postAll events).start
      have hafter : p.start.2.CaughtUp := hcaughtUp.start
      have hstart : p.start.2 = p.begun.heed := by
        rw [start_eq hh hr, settle_of_unprompted hun]
      have hall : early.2 = p.start.2.postAll events := start_postAll_of_unprompted hun hh hr events
      refine ⟨hall, ?_⟩
      -- the wait of a pull, if one waits, is over either after each event or after all
      rw [hend.expire_eq hun, hall, hafter.postEach_eq hun, postAll_of_unprompted hun, hstart,
        lapse_hearAll, hearEach, hearEach, lapse_heed]
  · intro p held events hh hr early
    refine ⟨?_, ?_, log_start hh hr events⟩
    · rw [postAll_untaped, start_untaped]
    · intro hun
      have hall : early = p.start.2.postAll events :=
        start_postAll_of_unprompted hun.onTape hh hr events
      rw [hall]

/-- A pipeline has been built, and a frame has been submitted. -/
def primed : List (Turn Recorder) :=
  [buildFor "udp://h:1", .action (.submit ⟨5, [1]⟩)]

/-- The second demand finds no frame, and the stream ends before the third. -/
def rush : List Event :=
  [.warning none "slow", .needData, .needData, .endOfStream, .needData]

theorem start_of_rush :
    let p := trialAfter primed
    let patient : Player Recorder Nat := (new (.withFaults .none) ⟨60000, 4⟩).after primed
    let unplayable : Player Recorder Nat :=
      (new (.withFaults { RecorderFaults.none with play := some "busy" }) ⟨100, 4⟩).after primed
    let onTape : Player (Tape Recorder) (Taped Nat) :=
      (new (.fresh (.withFaults .none)) ⟨100, 4⟩).after (primed.map Turn.onTape)
    ((p.postAll rush).start.2 = p.start.2.postAll rush ∧
      (p.postAll rush).start.2 = p.begun.heed.hearAll (rush.take 4)) ∧
    ((patient.postAll rush).start.2.waits = true ∧
      (patient.postAll rush).start.2.expire = patient.start.2.postEach rush) ∧
    ((unplayable.postAll rush).start.2 = unplayable.begun ∧ unplayable.begun.loopEnded = true) ∧
    (onTape.postAll rush).start.2.engine.log.callsOf 0 =
      [(.play, true), (.push ⟨0, [1]⟩, true), (.select .fallback, true)] ∧
    (onTape.postAll rush).start.2.engine.log = (onTape.start.2.postAll rush).engine.log := by
  intro p patient unplayable onTape
  obtain ⟨hrun, htape, hun⟩ := @start_of_posted Recorder Nat _
  have hstage : p.stage = some false := by decide +kernel
  have hpatient : patient.stage = some false := by decide +kernel
  have hunplayable : unplayable.stage = some false := by decide +kernel
  obtain ⟨-, -, -, hended, -, hposted⟩ := hrun (.withFaults .none) ⟨100, 4⟩ primed rush hstage
  obtain ⟨-, -, -, -, -, hwaiting⟩ := hrun (.withFaults .none) ⟨60000, 4⟩ primed rush hpatient
  obtain ⟨-, -, -, -, hfailed, -⟩ :=
    hrun (.withFaults { RecorderFaults.none with play := some "busy" }) ⟨100, 4⟩ primed rush
      hunplayable
  refine ⟨⟨(hposted hun).1, ?_⟩, ⟨by decide +kernel, (hwaiting hun).2⟩, ?_, by decide +kernel, ?_⟩
  · exact hended (rush.take 4) (rush.drop 4) rfl (by decide +kernel)
  · obtain ⟨held, hh, hr⟩ := exists_unstarted hunplayable
    have hplay : (MediaEngine.play ⟨held.pipeline, unplayable.engine⟩).1 = .error ⟨"busy"⟩ := rfl
    exact hfailed held ⟨"busy"⟩ _ hh (Prod.ext hplay rfl)
  · obtain ⟨held, hh, hr⟩ := exists_unstarted (p := onTape) (by decide +kernel)
    obtain ⟨-, hcalls, -⟩ := htape onTape held rush hh hr
    exact hcalls hun

end Player

end StandbyStream
