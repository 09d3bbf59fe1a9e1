import StandbyStream.Proofs.Player.Steps

/-!
# Heeding events

A loop at rest has heeded what was raised, and then it has served the demands that its pipeline
raises by itself (`Loop.settle_eq`). Heeding does not depend on when the events came: those that
follow others may as well come after these have been handled (`Loop.heed_enqueue`). What a loop has
to heed is its agenda, in which a pull that waits is a demand before everything that waits behind it
(`Loop.heed_of_on`); so the events behind it find the same when the wait is over as if there had
been none (`Loop.hurry_heed`).
-/

namespace StandbyStream

variable {ρ π : Type}

namespace Feed

/-- Unless it waits, a pull does not depend on how long it might. -/
theorem pull_of_no_wait [MediaEngine ρ π] {feed : Feed} {patience : Patience} {deck : Deck ρ π}
    (h : (feed.pull patience deck).1 ≠ .waiting) :
    feed.pull .brief deck = feed.pull patience deck := by
  cases patience with
  | brief => rfl
  | lasting =>
      by_cases idle : feed.Idle
      · rw [pull_of_idle idle, pull_of_idle idle]
      · rw [pull_of_live idle] at h ⊢
        rw [pull_of_live idle]
        rcases hpop : deck.queue.pop with ⟨popped, queue⟩
        cases popped with
        | empty =>
            rw [hpop] at h
            exact absurd rfl h
        | _ => rfl

end Feed

namespace Loop

/-! ## Events that wait -/

/-- What waits is replaced, except that a loop that has ended keeps nothing. -/
def leave (l : Loop ρ π) (pending : List Event) : Loop ρ π :=
  match l.phase with
  | .ended => l
  | _ => { l with pending }

/-- Events are put behind those that wait; a loop that has ended takes none. -/
def enqueue (l : Loop ρ π) (events : List Event) : Loop ρ π :=
  l.leave (l.pending ++ events)

variable {l : Loop ρ π}

theorem leave_of_ended (off : l.phase = .ended) (pending : List Event) : l.leave pending = l := by
  rw [leave, off]

theorem leave_of_on (on : l.phase ≠ .ended) (pending : List Event) :
    l.leave pending = { l with pending } := by
  rw [leave]
  cases hp : l.phase with
  | ended => exact absurd hp on
  | _ => rfl

theorem enqueue_of_ended (off : l.phase = .ended) (events : List Event) : l.enqueue events = l :=
  leave_of_ended off _

theorem enqueue_of_on (on : l.phase ≠ .ended) (events : List Event) :
    l.enqueue events = { l with pending := l.pending ++ events } :=
  leave_of_on on _

theorem enqueue_nil (l : Loop ρ π) : l.enqueue [] = l := by
  rw [enqueue, List.append_nil, leave]
  split <;> rfl

theorem enqueue_append (l : Loop ρ π) (events later : List Event) :
    l.enqueue (events ++ later) = (l.enqueue events).enqueue later := by
  by_cases off : l.phase = .ended
  · rw [enqueue_of_ended off, enqueue_of_ended off, enqueue_of_ended off]
  · have off' : ({ l with pending := l.pending ++ events } : Loop ρ π).phase ≠ .ended := off
    rw [enqueue_of_on off, enqueue_of_on off, enqueue_of_on off', List.append_assoc]

variable [MediaEngine ρ π]

/-! ## Handling what waits -/

/-- What a loop makes of the events behind the one that it has just handled. -/
def proceed (l : Loop ρ π) (events : List Event) : Loop ρ π :=
  match l.phase with
  | .listening => if l.quit then l.finish false else l.handleAll events
  | .pulling => { l with pending := events }
  | .ended => l

/-- The loop goes on with a pull that waits and handles what has been raised, but serves no demand
that the pipeline raises by itself. -/
def heed (l : Loop ρ π) : Loop ρ π :=
  match l.resume.phase with
  | .listening => l.resume.handleAll l.resume.pending
  | _ => l.resume

/-- A loop at rest has heeded what was raised, and then served the demands of its pipeline. -/
theorem settle_eq (l : Loop ρ π) :
    l.settle = l.heed.serveDemand (l.heed.deck.queue.size + 1) := rfl

theorem handleAll_cons (l : Loop ρ π) (event : Event) (rest : List Event) :
    l.handleAll (event :: rest) = (l.handle event).proceed rest := by
  rw [handleAll.eq_def]
  rfl

theorem proceed_of_ended (off : l.phase = .ended) (events : List Event) : l.proceed events = l := by
  rw [proceed, off]

theorem proceed_of_pulling (on : l.phase = .pulling) (events : List Event) :
    l.proceed events = { l with pending := events } := by
  rw [proceed, on]

theorem proceed_of_listening (on : l.phase = .listening) (events : List Event) :
    l.proceed events = if l.quit then l.finish false else l.handleAll events := by
  rw [proceed, on]

theorem heed_of_listening (on : l.phase = .listening) : l.heed = l.handleAll l.pending := by
  have hr : l.resume = l := by
    rw [resume.eq_def, on]
  rw [heed, hr, on]

theorem heed_of_ended (off : l.phase = .ended) : l.heed = l := by
  have hr : l.resume = l := by
    rw [resume.eq_def, off]
  rw [heed, hr, off]

/-! ### What waits is not looked at -/

/-- A pull does not look at the events that wait. -/
theorem pull_withPending (l : Loop ρ π) (pending : List Event) :
    ({ l with pending } : Loop ρ π).pull = l.pull.leave pending := by
  rw [pull.eq_def, pull.eq_def]
  simp only
  rcases l.feed.pull l.patience l.deck with ⟨outcome, feed, deck⟩
  cases outcome <;> rfl

/-- A pull begins alike whether the loop has been listening or waiting. -/
theorem pull_withPhase (l : Loop ρ π) (phase : Phase) :
    ({ l with phase } : Loop ρ π).pull = l.pull := by
  rw [pull.eq_def, pull.eq_def]
  simp only
  rcases l.feed.pull l.patience l.deck with ⟨outcome, feed, deck⟩
  cases outcome <;> rfl

theorem handle_withPending (on : l.phase = .listening) (pending : List Event) (event : Event) :
    ({ l with pending } : Loop ρ π).handle event = (l.handle event).leave pending := by
  have on' : l.phase ≠ .ended := by simp [on]
  cases event with
  | needData => exact pull_withPending l pending
  | endOfStream => rfl
  | warning source message => exact (leave_of_on on' pending).symm
  | error source message => rfl
  | wake => exact (leave_of_on on' pending).symm

theorem proceed_leave_of {pending events : List Event}
    (h : l.phase = .listening →
      ({ l with pending } : Loop ρ π).handleAll events = l.handleAll events) :
    (l.leave pending).proceed events = l.proceed events := by
  cases on : l.phase with
  | ended => rw [leave_of_ended on]
  | pulling =>
      have on' : ({ l with pending } : Loop ρ π).phase = .pulling := on
      rw [leave_of_on (by simp [on]), proceed_of_pulling on, proceed_of_pulling on']
  | listening =>
      have on' : ({ l with pending } : Loop ρ π).phase = .listening := on
      rw [leave_of_on (by simp [on]), proceed_of_listening on, proceed_of_listening on', h on]
      rfl

/-- What a loop handles does not depend on the events that wait. -/
theorem handleAll_withPending (on : l.phase = .listening) (pending events : List Event) :
    ({ l with pending } : Loop ρ π).handleAll events = l.handleAll events := by
  induction events generalizing l with
  | nil => rfl
  | cons event rest ih =>
      rw [handleAll_cons, handleAll_cons, handle_withPending on]
      exact proceed_leave_of fun on' => ih on'

theorem proceed_leave (l : Loop ρ π) (pending events : List Event) :
    (l.leave pending).proceed events = l.proceed events :=
  proceed_leave_of fun on => handleAll_withPending on pending events

/-! ### Pulls that wait -/

/-- A pull that waits finds nothing to go on with. -/
def Still (l : Loop ρ π) : Prop :=
  l.phase = .pulling → l.pull = l

/-- A pull that waits has changed nothing else. -/
theorem pull_of_waits (h : l.pull.phase = .pulling) : l.pull = { l with phase := .pulling } := by
  by_cases idle : l.feed.Idle
  · rw [pull_of_idle idle] at h
    cases h
  cases hopen : l.deck.queue.closed with
  | true =>
      rw [pull_of_closed idle hopen] at h
      cases h
  | false =>
      cases hq : l.deck.queue.frames with
      | nil =>
          rcases hp : l.patience with _ | _
          · rw [pull_of_late idle hopen hq hp] at h
            split at h <;> cases h
          · rw [pull_of_patient idle hopen hq hp, hp]
      | cons frame rest =>
          rw [pull_of_frame idle hopen hq] at h
          split at h <;> cases h

theorem still_of_phase (h : l.phase ≠ .pulling) : l.Still :=
  fun on => absurd on h

theorem still_pull (l : Loop ρ π) : l.pull.Still := by
  intro on
  rw [pull_of_waits on]
  exact (pull_withPhase l .pulling).trans (pull_of_waits on)

theorem Still.leave (h : l.Still) (pending : List Event) : (l.leave pending).Still := by
  by_cases off : l.phase = .ended
  · rw [leave_of_ended off]
    exact h
  · rw [leave_of_on off]
    intro on
    have on' : l.phase = .pulling := on
    rw [pull_withPending, h on', leave_of_on off]

theorem still_handle (on : l.phase = .listening) (event : Event) : (l.handle event).Still := by
  cases event with
  | needData => exact still_pull l
  | endOfStream => exact still_of_phase nofun
  | error source message => exact still_of_phase nofun
  | warning source message => exact still_of_phase (by simp [handle, on])
  | wake => exact still_of_phase (by simp [handle, on])

theorem resume_of_pulling (on : l.phase = .pulling) :
    l.resume = if l.pull.phase = .listening ∧ l.pull.quit = true then l.pull.finish false
      else l.pull := by
  rw [resume.eq_def, on]

/-- A pull takes no event off the list unless it ends the loop. -/
theorem pull_of_on (on : l.pull.phase ≠ .ended) : l.pull = { l.pull with pending := l.pending } :=
  (pull_withPending l l.pending).trans (leave_of_on on _)

/-- A pull that waits goes on, and the events behind it follow. -/
theorem heed_of_pulling (on : l.phase = .pulling) : l.heed = l.pull.proceed l.pending := by
  rw [heed, resume_of_pulling on]
  cases hp : l.pull.phase with
  | ended => simp [hp, proceed_of_ended]
  | pulling =>
      rw [proceed_of_pulling hp, ← pull_of_on (by simp [hp])]
      simp [hp]
  | listening =>
      have hpull : l.pull = { l.pull with pending := l.pending } := pull_of_on (by simp [hp])
      have hpending : l.pull.pending = l.pending := by rw [hpull]
      rw [proceed_of_listening hp, ← hpending]
      cases hq : l.pull.quit with
      | true => simp [finish]
      | false => simp [hp]

/-- A pull that waits is a demand before the events that wait behind it. -/
theorem heed_waiting (l : Loop ρ π) (pending : List Event) :
    ({ l with phase := .pulling, pending } : Loop ρ π).heed =
      l.handleAll (.needData :: pending) := by
  have hpull : ({ l with phase := .pulling, pending } : Loop ρ π).pull = l.pull.leave pending :=
    (pull_withPhase { l with pending } .pulling).trans (pull_withPending l pending)
  rw [heed_of_pulling rfl, hpull, proceed_leave, handleAll_cons, handle]

/-- All that a loop has to heed: the demand of a pull that waits, and the events. -/
def agenda (l : Loop ρ π) : List Event :=
  match l.phase with
  | .pulling => .needData :: l.pending
  | _ => l.pending

/-- A loop that has not ended handles its agenda as if it had been listening. -/
theorem heed_of_on (on : l.phase ≠ .ended) :
    l.heed = ({ l with phase := .listening } : Loop ρ π).handleAll l.agenda := by
  cases hp : l.phase with
  | ended => exact absurd hp on
  | listening =>
      have hl : ({ l with phase := .listening } : Loop ρ π) = l := by rw [← hp]
      have hagenda : l.agenda = l.pending := by rw [agenda, hp]
      rw [heed_of_listening hp, hl, hagenda]
  | pulling =>
      have hagenda : l.agenda = .needData :: l.pending := by rw [agenda, hp]
      rw [heed_of_pulling hp, hagenda, handleAll_cons, handle, pull_withPhase l .listening]

/-- New events go to the end of the agenda. -/
theorem heed_enqueue_of_on (on : l.phase ≠ .ended) (events : List Event) :
    (l.enqueue events).heed =
      ({ l with phase := .listening } : Loop ρ π).handleAll (l.agenda ++ events) := by
  have on' : ({ l with pending := l.pending ++ events } : Loop ρ π).phase ≠ .ended := on
  have hagenda : ({ l with pending := l.pending ++ events } : Loop ρ π).agenda =
      l.agenda ++ events := by
    rw [agenda, agenda]
    cases l.phase <;> rfl
  rw [enqueue_of_on on, heed_of_on on', hagenda]
  exact handleAll_withPending (l := { l with phase := .listening }) rfl _ _

theorem Still.heed_eq (h : l.Still) (on : l.phase = .pulling) : l.heed = l := by
  rw [heed_of_pulling on, h on, proceed_of_pulling on]

/-- A pull that waits and finds nothing to go on with is at rest. -/
theorem settle_of_still (on : l.phase = .pulling) (h : l.Still) : l.settle = l := by
  have hserve : ∀ count, l.serveDemand count = l := by
    intro count
    cases count with
    | zero => rfl
    | succ count => rw [serveDemand.eq_def, on]
  rw [settle_eq, h.heed_eq on, hserve]

/-! ### Events after events -/

theorem proceed_append_of {events later : List Event} (h : l.Still)
    (hall : l.phase = .listening →
      l.handleAll (events ++ later) = ((l.handleAll events).enqueue later).heed) :
    l.proceed (events ++ later) = ((l.proceed events).enqueue later).heed := by
  cases on : l.phase with
  | ended => rw [proceed_of_ended on, proceed_of_ended on, enqueue_of_ended on, heed_of_ended on]
  | pulling =>
      -- the wait goes on, and all the events stay behind it
      have on' : ({ l with pending := events } : Loop ρ π).phase = .pulling := on
      have on'' : ({ l with pending := events ++ later } : Loop ρ π).phase = .pulling := on
      have hs : ({ l with pending := events ++ later } : Loop ρ π).Still := by
        rw [← leave_of_on (by simp [on])]
        exact h.leave _
      rw [proceed_of_pulling on, proceed_of_pulling on, enqueue_of_on (by simp [on]),
        hs.heed_eq on'']
  | listening =>
      rw [proceed_of_listening on, proceed_of_listening on]
      split
      · rw [enqueue_of_ended rfl, heed_of_ended rfl]
      · exact hall on

/-- Events that follow others may as well come when those have been handled. -/
theorem handleAll_append (on : l.phase = .listening) (events later : List Event) :
    l.handleAll (events ++ later) = ((l.handleAll events).enqueue later).heed := by
  induction events generalizing l with
  | nil =>
      have on' : ({ l with pending := later } : Loop ρ π).phase = .listening := on
      have hne : (l.handleAll []).phase ≠ .ended := by simp [handleAll, on]
      calc
        l.handleAll later = ({ l with pending := later } : Loop ρ π).handleAll later :=
          (handleAll_withPending on _ _).symm
        _ = ({ l with pending := later } : Loop ρ π).heed := (heed_of_listening on').symm
        _ = ((l.handleAll []).enqueue later).heed :=
          congrArg heed (enqueue_of_on hne later).symm
  | cons event rest ih =>
      -- what the first event leads to decides whether the others are handled now
      rw [List.cons_append, handleAll_cons, handleAll_cons]
      exact proceed_append_of (still_handle on event) ih

/-- A loop may heed what was raised before or after more is raised. -/
theorem heed_enqueue (l : Loop ρ π) (events : List Event) :
    (l.enqueue events).heed = (l.heed.enqueue events).heed := by
  by_cases off : l.phase = .ended
  · rw [heed_of_ended off]
  · rw [heed_enqueue_of_on off, handleAll_append rfl, ← heed_of_on off]

theorem heed_heed (l : Loop ρ π) : l.heed.heed = l.heed := by
  have h := heed_enqueue l []
  rw [enqueue_nil, enqueue_nil] at h
  exact h.symm

theorem settle_heed (l : Loop ρ π) : l.heed.settle = l.settle := by
  rw [settle_eq, heed_heed, settle_eq]

/-! ### What heeding leaves as it is -/

/-- The steps behind the first event. -/
theorem proceed_steps (l : Loop ρ π) (events : List Event) : Steps l (l.proceed events) := by
  cases on : l.phase with
  | ended => rw [proceed_of_ended on]
  | pulling =>
      rw [proceed_of_pulling on]
      exact .single (.handled (by simp [on]))
  | listening =>
      rw [proceed_of_listening on]
      split
      · exact .single (.ended on)
      · exact handleAll_steps events l on

theorem heed_steps (l : Loop ρ π) : Steps l l.heed := by
  have hr := resume_steps l
  rw [heed]
  split
  · next on => exact hr.trans (handleAll_steps _ _ on)
  · exact hr

omit [MediaEngine ρ π] in
theorem enqueue_frame (l : Loop ρ π) (events : List Event) :
    (l.enqueue events).patience = l.patience ∧ (l.enqueue events).quit = l.quit := by
  rw [enqueue, leave]
  split <;> exact ⟨rfl, rfl⟩

/-! ### Waits that come to their end -/

/-- The loop, with pulls that do not wait. -/
def hurry (l : Loop ρ π) : Loop ρ π :=
  { l with patience := .brief }

/-- Unless it waits, a pull does not depend on how long it might. -/
theorem pull_hurry (h : l.pull.phase ≠ .pulling) : l.hurry.pull = l.pull.hurry := by
  have hfeed : l.hurry.feed.pull l.hurry.patience l.hurry.deck =
      l.feed.pull l.patience l.deck := by
    refine Feed.pull_of_no_wait ?_
    intro hw
    apply h
    rw [pull.eq_def]
    have hw' : (l.feed.pull l.patience l.deck).1 = .waiting := hw
    rcases hpull : l.feed.pull l.patience l.deck with ⟨outcome, feed, deck⟩
    rw [hpull] at hw'
    cases hw'
    rfl
  rw [pull.eq_def, hfeed, pull.eq_def]
  rcases l.feed.pull l.patience l.deck with ⟨outcome, feed, deck⟩
  cases outcome <;> rfl

theorem handle_hurry {event : Event} (h : (l.handle event).phase ≠ .pulling) :
    l.hurry.handle event = (l.handle event).hurry := by
  cases event with
  | needData => exact pull_hurry h
  | _ => rfl

/-- Only a demand can make the loop wait, and that is all it does then. -/
theorem handle_of_waits {event : Event} (on : l.phase = .listening)
    (h : (l.handle event).phase = .pulling) :
    event = .needData ∧ l.handle event = { l with phase := .pulling } := by
  cases event with
  | needData => exact ⟨rfl, pull_of_waits h⟩
  | endOfStream => cases h
  | error source message => cases h
  | warning source message =>
      rw [handle, on] at h
      cases h
  | wake =>
      rw [handle, on] at h
      cases h

/-- When the wait of a pull is over, the events behind it find what they would have found without
the wait. -/
theorem hurry_handleAll (on : l.phase = .listening) (events : List Event) :
    (l.handleAll events).hurry.heed = l.hurry.handleAll events := by
  -- by induction on the events, up to the one at which the loop waits or ends
  induction events generalizing l with
  | nil =>
      have on' : (l.handleAll []).hurry.phase = .listening := on
      exact heed_of_listening on'
  | cons event rest ih =>
      rw [handleAll_cons]
      cases hp : (l.handle event).phase with
      | pulling =>
          -- the wait is over: the same demand is served again, before the events behind it
          obtain ⟨rfl, hl⟩ := handle_of_waits on hp
          rw [proceed_of_pulling hp, hl]
          exact heed_waiting l.hurry rest
      | ended =>
          have hp' : (l.handle event).hurry.phase = .ended := hp
          rw [handleAll_cons, handle_hurry (by simp [hp]), proceed_of_ended hp,
            proceed_of_ended hp', heed_of_ended hp']
      | listening =>
          have hp' : (l.handle event).hurry.phase = .listening := hp
          have hquit : (l.handle event).hurry.quit = (l.handle event).quit := rfl
          rw [handleAll_cons, handle_hurry (by simp [hp]), proceed_of_listening hp,
            proceed_of_listening hp', hquit]
          split
          · exact heed_of_ended rfl
          · exact ih hp

/-- A loop may heed what was raised before or after the wait is over. -/
theorem hurry_heed (l : Loop ρ π) : l.heed.hurry.heed = l.hurry.heed := by
  by_cases off : l.phase = .ended
  · rw [heed_of_ended off]
  · have off' : l.hurry.phase ≠ .ended := off
    rw [heed_of_on off, hurry_handleAll rfl, heed_of_on off']
    rfl

/-- The loop once the wait of its pull, if one waits, is over, and the events behind it have been
heeded. -/
def lapse (l : Loop ρ π) : Loop ρ π :=
  { l.hurry.heed with patience := l.patience }

theorem heed_frame (l : Loop ρ π) : l.heed.patience = l.patience ∧ l.heed.quit = l.quit := by
  obtain ⟨hpatience, hquit, -⟩ := (heed_steps l).frame
  exact ⟨hpatience, hquit⟩

theorem lapse_frame (l : Loop ρ π) : l.lapse.patience = l.patience ∧ l.lapse.quit = l.quit :=
  ⟨rfl, (heed_frame l.hurry).2⟩

theorem lapse_heed (l : Loop ρ π) : l.heed.lapse = l.lapse := by
  rw [lapse, lapse, hurry_heed, (heed_frame l).1]

/-- A wait may be over before or after more is raised. -/
theorem lapse_enqueue (l : Loop ρ π) (events : List Event) :
    (l.lapse.enqueue events).lapse = (l.enqueue events).lapse := by
  have hl : l.lapse.hurry = l.hurry.heed := by
    have hpatience : l.hurry.heed.patience = .brief := (heed_frame l.hurry).1
    rw [lapse, hurry, ← hpatience]
  have hcomm : ∀ l : Loop ρ π, (l.enqueue events).hurry = l.hurry.enqueue events := by
    intro l
    by_cases off : l.phase = .ended
    · have off' : l.hurry.phase = .ended := off
      rw [enqueue_of_ended off, enqueue_of_ended off']
    · have off' : l.hurry.phase ≠ .ended := off
      rw [enqueue_of_on off, enqueue_of_on off']
      rfl
  have hheed : (l.lapse.enqueue events).hurry.heed = (l.enqueue events).hurry.heed := by
    rw [hcomm, hl, ← heed_enqueue, hcomm]
  have hpatience : (l.lapse.enqueue events).patience = (l.enqueue events).patience := by
    rw [(enqueue_frame _ _).1, (enqueue_frame _ _).1]
    rfl
  exact congrArg₂ (fun (l : Loop ρ π) patience => { l with patience }) hheed hpatience

end Loop

end StandbyStream
