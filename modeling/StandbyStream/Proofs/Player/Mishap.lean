import StandbyStream.Proofs.Player.Delivery
import StandbyStream.Proofs.Player.Stop

/-!
# Mishaps

The mark for errors is set when a mishap ends the loop: the pipeline refuses to play, to take a
buffer or to put the fallback on air, or it raises an error that the loop gets to handle. What is
still pending when the loop ends is not handled, so an error behind the end of the stream does not
count (`Loop.handled`). Calls and events since the last build that succeeded account for the mark,
and nothing else does (`Player.Accounts`, `Player.errorDetected_of_run`).
-/

namespace StandbyStream

/-! ## Calls and events that are mishaps -/

/-- The loop cannot go on after this answer. -/
def Call.isMishap : Call × Bool → Bool
  | (.play, accepted) => !accepted
  | (.push _, accepted) => !accepted
  | (.select .fallback, accepted) => !accepted
  | _ => false

/-- Some call had an answer after which the loop cannot go on. -/
theorem Call.any_isMishap_iff (calls : List (Call × Bool)) :
    calls.any Call.isMishap = true ↔
      (.play, false) ∈ calls ∨ (∃ buffer, (.push buffer, false) ∈ calls) ∨
        (.select .fallback, false) ∈ calls := by
  rw [List.any_eq_true]
  constructor
  · rintro ⟨⟨call, accepted⟩, hm, h⟩
    cases accepted with
    | true =>
        rcases call with _ | _ | _ | _ | _ | (_ | _) | _ <;> cases h
    | false =>
        cases call with
        | play => exact .inl hm
        | push buffer => exact .inr (.inl ⟨buffer, hm⟩)
        | select input =>
            cases input with
            | live => cases h
            | fallback => exact .inr (.inr hm)
        | instantiate mode destination => cases h
        | halt => cases h
        | endOfStream => cases h
        | disconnectDemand => cases h
  · rintro (hm | ⟨buffer, hm⟩ | hm)
    · exact ⟨_, hm, rfl⟩
    · exact ⟨_, hm, rfl⟩
    · exact ⟨_, hm, rfl⟩

/-- No answer to a farewell is a mishap. -/
theorem Farewell.no_mishap (f : Farewell) : f.calls.any Call.isMishap = false := by
  obtain ⟨_ | accepted, halted⟩ := f <;> rfl

theorem Event.any_isError_iff (events : List Event) :
    events.any Event.isError = true ↔ ∃ source message, .error source message ∈ events := by
  rw [List.any_eq_true]
  constructor
  · rintro ⟨event, hm, h⟩
    cases event with
    | error source message => exact ⟨source, message, hm⟩
    | _ => cases h
  · rintro ⟨source, message, hm⟩
    exact ⟨_, hm, rfl⟩

variable {ρ π : Type}

/-! ## The loop -/

namespace Loop

/-- On the way from one loop to another these events are handled, and the mark for errors is set if
there is an error among them, or a mishap among the calls that the pipeline is told. -/
def Accounts (events : List Event) (l l' : Loop (Tape ρ) (Taped π)) : Prop :=
  ∃ calls, l.deck.rig.Told l'.deck.rig calls ∧
    l'.deck.status.errorDetected =
      (l.deck.status.errorDetected || calls.any Call.isMishap || events.any Event.isError)

namespace Accounts

variable {events events' : List Event} {l l' l'' : Loop (Tape ρ) (Taped π)}

theorem refl (l : Loop (Tape ρ) (Taped π)) : l.Accounts [] l :=
  ⟨[], .refl _, by simp⟩

theorem trans (h : l.Accounts events l') (h' : l'.Accounts events' l'') :
    l.Accounts (events ++ events') l'' := by
  obtain ⟨calls, htold, herror⟩ := h
  obtain ⟨calls', htold', herror'⟩ := h'
  refine ⟨calls ++ calls', htold.trans htold', ?_⟩
  rw [herror', herror, List.any_append, List.any_append]
  ac_rfl

/-- A single call accounts for the mark by its answer. -/
theorem of_call {call : Call} {accepted : Bool}
    (htold : l.deck.rig.Told l'.deck.rig [(call, accepted)])
    (herror : l'.deck.status.errorDetected =
      (l.deck.status.errorDetected || Call.isMishap (call, accepted))) : l.Accounts [] l' := by
  refine ⟨_, htold, ?_⟩
  simp [herror]

/-- That a loop ends without an error, or what is pending, is not accounted for. -/
theorem of_eq (h : l.Accounts events l') (hrig : l''.deck.rig = l'.deck.rig)
    (herror : l''.deck.status.errorDetected = l'.deck.status.errorDetected) :
    l.Accounts events l'' := by
  obtain ⟨calls, htold, hmark⟩ := h
  refine ⟨calls, ?_, herror.trans hmark⟩
  rw [hrig]
  exact htold

end Accounts

variable [MediaEngine ρ π]

/-- The events that are handled among those given: up to the one with which the loop ends or begins
to wait. -/
def handledAmong (l : Loop ρ π) : List Event → List Event
  | [] => []
  | event :: rest =>
    if (l.handle event).phase = .listening ∧ (l.handle event).quit = false then
      event :: (l.handle event).handledAmong rest
    else [event]

/-- Unless the loop ends, what has been handled and what still waits make up what was raised. -/
theorem handledAmong_append_pending (events : List Event) (l : Loop ρ π)
    (on : (l.handleAll events).phase ≠ .ended) :
    l.handledAmong events ++ (l.handleAll events).pending = events := by
  induction events generalizing l with
  | nil => rfl
  | cons event rest ih =>
      rw [handleAll.eq_def] at on ⊢
      rw [handledAmong.eq_def]
      simp only at on ⊢
      cases hp : (l.handle event).phase with
      | listening =>
          cases hq : (l.handle event).quit with
          | true =>
              simp only [hp, hq, if_true] at on
              exact absurd rfl on
          | false =>
              simp only [hp, hq, Bool.false_eq_true, if_false] at on
              have hrest := ih (l.handle event) on
              simpa using hrest
      | pulling => rfl
      | ended =>
          simp only [hp] at on
          exact absurd rfl on

/-- The events that a loop handles on its way to rest. -/
def handled (l : Loop ρ π) : List Event :=
  match l.resume.phase with
  | .listening => l.resume.handledAmong l.resume.pending
  | _ => []

/-- A pull sets the mark if it ends with a refusal. -/
theorem accounts_pull (l : Loop (Tape ρ) (Taped π)) : l.Accounts [] l.pull := by
  by_cases idle : l.feed.Idle
  · rw [pull_of_idle idle]
    exact .refl l
  cases hopen : l.deck.queue.closed with
  | true =>
      rw [pull_of_closed idle hopen]
      exact (Accounts.refl l).of_eq rfl (Bool.or_false _)
  | false =>
      cases hq : l.deck.queue.frames with
      | nil =>
          cases hp : l.patience with
          | lasting =>
              rw [pull_of_patient idle hopen hq hp]
              exact .refl l
          | brief =>
              rw [pull_of_late idle hopen hq hp]
              rcases hs : MediaEngine.select .fallback l.deck.rig with ⟨fault | _, rig⟩
              · exact .of_call (Rig.told_of_select hs) rfl
              · exact .of_call (Rig.told_of_select hs) (Bool.or_false _).symm
      | cons frame rest =>
          rw [pull_of_frame idle hopen hq]
          rcases hs : MediaEngine.push (l.feed.stamp frame) l.deck.rig with ⟨fault | _, rig⟩
          · exact .of_call (Rig.told_of_push hs) rfl
          · exact .of_call (Rig.told_of_push hs) (Bool.or_false _).symm

theorem accounts_handle (l : Loop (Tape ρ) (Taped π)) (event : Event) :
    l.Accounts [event] (l.handle event) := by
  cases event with
  | needData => exact l.accounts_pull
  | endOfStream => exact (Accounts.refl l).of_eq rfl (Bool.or_false _)
  | warning source message => exact .refl l
  | error source message => exact ⟨[], .refl _, by simp [handle, finish, Event.isError]⟩
  | wake => exact .refl l

theorem accounts_handleAll (events : List Event) (l : Loop (Tape ρ) (Taped π)) :
    l.Accounts (l.handledAmong events) (l.handleAll events) := by
  induction events generalizing l with
  | nil => exact (Accounts.refl l).of_eq rfl rfl
  | cons event rest ih =>
      -- whichever way the first event leads out of the list, no other event is accounted for
      have hfirst := l.accounts_handle event
      rw [handleAll.eq_def, handledAmong.eq_def]
      simp only
      cases hp : (l.handle event).phase with
      | listening =>
          cases hq : (l.handle event).quit with
          | true => exact hfirst.of_eq rfl (Bool.or_false _)
          | false =>
              have hrest := hfirst.trans (ih (l.handle event))
              simpa using hrest
      | pulling => exact hfirst.of_eq rfl rfl
      | ended => exact hfirst

theorem accounts_serveDemand (count : Nat) (l : Loop (Tape ρ) (Taped π)) :
    l.Accounts [] (l.serveDemand count) := by
  induction count generalizing l with
  | zero => exact .refl l
  | succ count ih =>
      rw [serveDemand.eq_def]
      simp only
      split
      · next rig on hd =>
          have hraised : l.Accounts [] { l with deck := { l.deck with rig } } :=
            ⟨[], Rig.told_of_raiseDemand hd, by simp⟩
          exact (hraised.trans (accounts_pull _)).trans (ih _)
      · exact .refl l

theorem accounts_resume (l : Loop (Tape ρ) (Taped π)) : l.Accounts [] l.resume := by
  rw [resume.eq_def]
  split
  · simp only
    split
    · exact l.accounts_pull.of_eq rfl (Bool.or_false _)
    · exact l.accounts_pull
  · exact .refl l

/-- What accounts for the mark of a loop at rest are the events that it has handled. -/
theorem accounts_settle (l : Loop (Tape ρ) (Taped π)) : l.Accounts l.handled l.settle := by
  have hresumed := l.accounts_resume
  rw [settle.eq_def, handled.eq_def]
  simp only
  cases l.resume.phase with
  | listening =>
      have hhandled := hresumed.trans (accounts_handleAll l.resume.pending l.resume)
      have hserved := hhandled.trans (accounts_serveDemand
        ((l.resume.handleAll l.resume.pending).deck.queue.size + 1) _)
      simpa using hserved
  | pulling => exact hresumed.trans (accounts_serveDemand _ _)
  | ended => exact hresumed.trans (accounts_serveDemand _ _)

/-- A pipeline that refuses to play sets the mark. -/
theorem accounts_begin (l : Loop (Tape ρ) (Taped π)) : l.Accounts [] l.begin := by
  cases hs : MediaEngine.play l.deck.rig with
  | mk answer rig =>
      rw [begin.eq_def, hs]
      cases answer with
      | error fault => exact .of_call (Rig.told_of_play hs) (Bool.or_true _).symm
      | ok _ => exact .of_call (Rig.told_of_play hs) (Bool.or_false _).symm

/-- A loop whose beginning sets the mark has ended. -/
theorem ended_of_error_begin {l : Loop ρ π} (clear : l.deck.status.errorDetected = false)
    (noted : l.begin.deck.status.errorDetected = true) : l.begin.phase = .ended := by
  rw [begin.eq_def] at noted ⊢
  split
  · rfl
  · next hplay =>
      rw [hplay] at noted
      exact absurd (clear.symm.trans noted) Bool.false_ne_true

/-- A step that sets the mark ends the loop. -/
theorem Step.ended_of_error {l l' : Loop ρ π} (h : Step l l')
    (clear : l.deck.status.errorDetected = false)
    (noted : l'.deck.status.errorDetected = true) : l'.phase = .ended := by
  have hsame : l.deck.status.errorDetected ≠ true := by simp [clear]
  cases h with
  | closed => rfl
  | refused => rfl
  | stuck => rfl
  | ended => rfl
  | failed => rfl
  | _ => exact absurd noted hsame

end Loop

/-! ## The player -/

namespace Player

variable [MediaEngine ρ π]

/-- The events that the loop handles on its way to rest. -/
def handled (p : Player ρ π) : List Event :=
  match p.held with
  | some held =>
    match held.running with
    | some running => (p.loop held running).handled
    | none => []
  | none => []

/-- The player whose loop runs to rest in a turn, if one does. -/
def unsettled? (p : Player ρ π) : Turn ρ → Option (Player ρ π)
  | .action (.build _) => none
  | .action .start =>
    match p.held with
    | some held => if held.running.isSome then none else some (p.withLoop held (p.firstLoop held))
    | none => none
  | .action .stop => p.held.map p.askedToQuit
  | .action (.submit frame) => some { p with queue := (p.queue.push frame).2 }
  | .action (.post event) =>
    if p.loopEnded then none
    else p.held.map fun held =>
      { p with held := some { held with pending := held.pending ++ [event] } }
  | .action (.alter change) => some { p with engine := change p.engine }
  | .expiry => if p.waits then some { p with patience := .brief } else none

/-- The events that are handled in a turn. -/
def handledIn (p : Player ρ π) (turn : Turn ρ) : List Event :=
  (p.unsettled? turn).elim [] handled

/-- The events that have been handled since the last build that succeeded, those handled before the
turns given. -/
def handledSince (p : Player ρ π) (events : List Event) : List (Turn ρ) → List Event
  | [] => events
  | turn :: turns =>
    (p.take turn).handledSince (if p.renews turn then [] else events ++ p.handledIn turn) turns

/-- On the way from one player to another these events are handled, and the mark for errors is set
if there is an error among them, or a mishap among the calls that the newest pipeline is told. -/
def Accounts (events : List Event) (p p' : Player (Tape ρ) (Taped π)) : Prop :=
  ∃ calls, p'.engine.log.newest = p.engine.log.newest ++ calls ∧
    p'.status.errorDetected =
      (p.status.errorDetected || calls.any Call.isMishap || events.any Event.isError)

/-- The mark for errors is set exactly if there is an error among these events, or a mishap among
the calls of the newest pipeline. -/
def Marked (events : List Event) (p : Player (Tape ρ) (Taped π)) : Prop :=
  p.status.errorDetected =
    (p.engine.log.newest.any Call.isMishap || events.any Event.isError)

namespace Accounts

variable {events events' : List Event} {p p' p'' : Player (Tape ρ) (Taped π)}

omit [MediaEngine ρ π] in
/-- Only the tape and the mark are looked at. -/
theorem of_eq (hlog : p'.engine.log = p.engine.log)
    (herror : p'.status.errorDetected = p.status.errorDetected) : p.Accounts [] p' := by
  refine ⟨[], ?_, ?_⟩
  · rw [hlog, List.append_nil]
  · rw [herror]
    simp

omit [MediaEngine ρ π] in
theorem trans (h : p.Accounts events p') (h' : p'.Accounts events' p'') :
    p.Accounts (events ++ events') p'' := by
  obtain ⟨calls, hnewest, herror⟩ := h
  obtain ⟨calls', hnewest', herror'⟩ := h'
  refine ⟨calls ++ calls', ?_, ?_⟩
  · rw [hnewest', hnewest, List.append_assoc]
  · rw [herror', herror, List.any_append, List.any_append]
    ac_rfl

omit [MediaEngine ρ π] in
theorem marked (h : p.Accounts events' p') (hp : p.Marked events) :
    p'.Marked (events ++ events') := by
  obtain ⟨calls, hnewest, herror⟩ := h
  rw [Marked] at hp
  rw [Marked, herror, hnewest, hp, List.any_append, List.any_append]
  ac_rfl

end Accounts

namespace Agrees

variable {ledger : Ledger} {p : Player (Tape ρ) (Taped π)}

omit [MediaEngine ρ π] in
/-- What accounts for the mark of a loop accounts for that of the player to whom it is put back. -/
theorem accounts_withLoop (h : p.Agrees ledger) {held : Held (Taped π)} (hh : p.held = some held)
    {running : Running} {events : List Event} {l : Loop (Tape ρ) (Taped π)}
    (ha : (p.loop held running).Accounts events l) : p.Accounts events (p.withLoop held l) := by
  obtain ⟨calls, ⟨-, hlog⟩, herror⟩ := ha
  refine ⟨calls, ?_, herror⟩
  refine (congrArg Log.newest hlog).trans ?_
  exact Log.newest_append_entries (h.held held hh).number calls

theorem accounts_settle (h : p.Agrees ledger) : p.Accounts p.handled p.settle := by
  rw [handled.eq_def]
  cases hh : p.held with
  | none =>
      rw [settle_of_held_none hh]
      exact .of_eq rfl rfl
  | some held =>
      cases hr : held.running with
      | none =>
          rw [settle_of_unstarted hh hr]
          simp only [hr]
          exact .of_eq rfl rfl
      | some running =>
          rw [settle_of_running hh hr]
          simp only [hr]
          exact h.accounts_withLoop hh (Loop.accounts_settle _)

theorem accounts_build {request : BuildRequest} (hb : (p.build request).1.isOk = false) :
    p.Accounts [] (p.build request).2 := by
  have hend := build_end p request
  generalize p.build request = result at hend hb
  cases hend with
  | refused => exact .of_eq rfl rfl
  | failed _ _ he => exact .of_eq (Tape.log_of_attempt he) rfl
  | built => cases hb

theorem accounts_start (h : p.Agrees ledger) :
    p.Accounts (p.handledIn (.action .start)) p.start.2 := by
  rw [handledIn, unsettled?.eq_def]
  simp only
  cases hh : p.held with
  | none =>
      rw [start_of_held_none hh]
      exact .of_eq rfl rfl
  | some held =>
      cases hr : held.running with
      | some running =>
          rw [start_of_running hh hr]
          simp only [hr]
          exact .of_eq rfl rfl
      | none =>
          -- the loop begins, and then it handles what has been raised before
          have hbegun : p.Accounts [] (p.withLoop held (p.firstLoop held)) :=
            h.accounts_withLoop hh (Loop.accounts_begin (p.unbegun held))
          have hagrees := (durable ledger).begin hh hr h
          rw [start_of_unstarted hh hr]
          simp only [hr]
          exact hbegun.trans hagrees.accounts_settle

theorem accounts_stop (h : p.Agrees ledger) :
    p.Accounts (p.handledIn (.action .stop)) p.stop := by
  rw [handledIn, unsettled?.eq_def]
  simp only
  cases hh : p.held with
  | none =>
      rw [stop_of_held_none hh]
      exact .of_eq rfl rfl
  | some held =>
      obtain ⟨f, -, hlog⟩ := p.log_askedToQuit held
      obtain ⟨-, -, hstatus, -⟩ := p.askedToQuit_end held
      -- no answer to the farewell sets the mark; from there on it is the loop that runs out
      have hasked : p.Accounts [] (p.askedToQuit held) := by
        refine ⟨f.calls, ?_, ?_⟩
        · refine (congrArg Log.newest hlog).trans ?_
          exact Log.newest_append_entries (h.held held hh).number f.calls
        · rw [hstatus, f.no_mishap]
          simp
      rw [stop_of_held hh]
      exact hasked.trans (h.askedToQuit hh).accounts_settle

theorem accounts_post (h : p.Agrees ledger) (event : Event) :
    p.Accounts (p.handledIn (.action (.post event))) (p.post event).2 := by
  rw [handledIn, unsettled?.eq_def, post.eq_def]
  simp only
  cases hh : p.held with
  | none =>
      simp only [Option.map_none, ite_self]
      exact .of_eq rfl rfl
  | some held =>
      simp only
      split
      · exact .of_eq rfl rfl
      · have hposted := (durable ledger).pending hh h (held.pending ++ [event])
        exact hposted.accounts_settle

theorem accounts_expire (h : p.Agrees ledger) :
    p.Accounts (p.handledIn .expiry) p.expire := by
  rw [handledIn, unsettled?.eq_def, expire]
  simp only
  split
  · have hbrief := (durable ledger).patience h .brief
    exact hbrief.accounts_settle
  · exact .of_eq rfl rfl

/-- In a turn that is no successful build, only the mishaps of this turn set the mark, and nothing
clears it. -/
theorem accounts_take (h : p.Agrees ledger) {turn : Turn ρ}
    (hn : p.renews turn.onTape = false) :
    p.Accounts (p.handledIn turn.onTape) (p.take turn.onTape) := by
  cases turn with
  | action a =>
      cases a with
      | build request => exact accounts_build hn
      | start => exact h.accounts_start
      | stop => exact h.accounts_stop
      | submit frame =>
          have hsubmitted : ({ p with queue := (p.queue.push frame).2 } :
              Player (Tape ρ) (Taped π)).Agrees ledger := h.of_eq rfl rfl rfl (.inr rfl)
          exact hsubmitted.accounts_settle
      | post event => exact h.accounts_post event
      | alter change =>
          have haltered : ({ p with engine := p.engine.alter change } :
              Player (Tape ρ) (Taped π)).Agrees ledger := h.of_eq rfl rfl rfl (.inr rfl)
          exact haltered.accounts_settle
  | expiry => exact h.accounts_expire

/-- A build that succeeds clears the mark, and its pipeline has not been called. -/
theorem marked_build (h : p.Agrees ledger) {request : BuildRequest}
    (hb : (p.build request).1.isOk = true) : (p.build request).2.Marked [] := by
  have hend := build_end p request
  generalize p.build request = result at hend hb
  cases hend with
  | refused => cases hb
  | failed => cases hb
  | @built t pipeline engine _ _ hi =>
      have hnone : engine.log.newest = [] := by
        rw [(Tape.log_of_made hi).2]
        exact h.toNewest.newest_append_made t
      change false = (engine.log.newest.any Call.isMishap || false)
      rw [hnone]
      rfl

theorem marked_take (h : p.Agrees ledger) {events : List Event} (hm : p.Marked events)
    (turn : Turn ρ) :
    (p.take turn.onTape).Marked
      (if p.renews turn.onTape then [] else events ++ p.handledIn turn.onTape) := by
  cases hr : p.renews turn.onTape with
  | false => exact (h.accounts_take hr).marked hm
  | true =>
      cases turn with
      | expiry => cases hr
      | action a =>
          cases a with
          | build request => exact h.marked_build hr
          | _ => cases hr

theorem marked_after (h : p.Agrees ledger) {events : List Event} (hm : p.Marked events)
    (turns : List (Turn ρ)) :
    (p.after (turns.map Turn.onTape)).Marked
      (p.handledSince events (turns.map Turn.onTape)) := by
  induction turns generalizing p ledger events with
  | nil => exact hm
  | cons turn turns ih =>
      -- the agreement goes along, since it says which pipeline the calls of a turn go to
      exact ih (h.take turn) (h.marked_take hm turn)

end Agrees

/-! ## The end of the loop -/

/-- If the mark is set, the loop of the pipeline that is still held has ended. -/
def Silenced (p : Player ρ π) : Prop :=
  p.status.errorDetected = true → ∀ held, p.held = some held →
    ∃ running, held.running = some running ∧ running.phase = .ended

namespace Silenced

variable {p : Player ρ π}

omit [MediaEngine ρ π] in
/-- As long as the loop of a held pipeline has not ended, the mark is not set. -/
theorem clear (h : p.Silenced) {held : Held π} (hh : p.held = some held)
    (on : ∀ running, held.running = some running → running.phase ≠ .ended) :
    p.status.errorDetected = false := by
  rw [Bool.eq_false_iff]
  intro noted
  obtain ⟨running, hr, off⟩ := h noted held hh
  exact on running hr off

theorem durable : Durable (Silenced : Player ρ π → Prop) where
  patience := fun h _ => h
  pending := by
    intro p held hh h pending noted
    rintro _ ⟨⟩
    exact h noted held hh
  begin := by
    intro p held hh hr h noted
    rintro _ ⟨⟩
    refine ⟨_, rfl, ?_⟩
    have hclear : p.status.errorDetected = false := by
      apply h.clear hh
      intro running hr'
      rw [hr] at hr'
      cases hr'
    exact Loop.ended_of_error_begin hclear noted
  step := by
    intro p held running l hh hr hstep h noted
    rintro _ ⟨⟩
    refine ⟨_, rfl, ?_⟩
    have hclear : p.status.errorDetected = false := by
      apply h.clear hh
      intro running' hr'
      rw [hr] at hr'
      cases hr'
      exact hstep.phase_ne_ended
    exact hstep.ended_of_error hclear noted

theorem take (h : p.Silenced) (turn : Turn ρ) : (p.take turn).Silenced := by
  cases turn with
  | action a =>
      cases a with
      | build request =>
          have hend := build_end p request
          rw [Player.take, act]
          generalize p.build request = result at hend
          cases hend with
          | refused => exact h
          | failed =>
              intro _ held hh
              cases hh
          | built =>
              intro noted
              cases noted
      | start => exact durable.start h
      | stop =>
          intro _ held hh
          cases (held_stop p).symm.trans hh
      | submit frame => exact durable.submit h
      | post event => exact durable.post h event
      | alter change => exact durable.alter h
  | expiry => exact durable.expire h

theorem after (h : p.Silenced) (turns : List (Turn ρ)) : (p.after turns).Silenced := by
  induction turns generalizing p with
  | nil => exact h
  | cons turn turns ih => exact ih (h.take turn)

omit [MediaEngine ρ π] in
theorem loopRuns_eq_false (h : p.Silenced) (noted : p.status.errorDetected = true) :
    p.loopRuns = false := by
  rw [loopRuns]
  cases hh : p.held with
  | none => rfl
  | some held =>
      obtain ⟨running, hr, off⟩ := h noted held hh
      simp [hr, off]

end Silenced

/-! ## Runs -/

/-- A build that succeeds clears the mark. -/
theorem errorDetected_of_renews {p : Player ρ π} {turn : Turn ρ} (h : p.renews turn = true) :
    (p.take turn).status.errorDetected = false := by
  cases turn with
  | expiry => cases h
  | action a =>
      cases a with
      | build request =>
          have hend := build_end p request
          rw [renews, rebuiltBy] at h
          rw [take, act]
          generalize p.build request = result at hend h
          cases hend with
          | refused => cases h
          | failed => cases h
          | built => rfl
      | _ => cases h

/-- A build that fails leaves the flags as they are. -/
theorem status_build {p : Player ρ π} {request : BuildRequest} {cause : BuildFault}
    (h : (p.build request).1 = .error cause) : (p.build request).2.status = p.status := by
  have hend := build_end p request
  generalize p.build request = result at hend h
  cases hend with
  | refused => rfl
  | failed => rfl
  | built => cases h

/-- A start that fails leaves everything as it is. -/
theorem start_of_error {p : Player ρ π} {cause : StartFault} (h : p.start.1 = .error cause) :
    p.start.2 = p := by
  have hend := p.start_end
  generalize p.start = result at hend h
  cases hend with
  | refused => rfl
  | begun => cases h

/-- The mark for errors, whatever the player goes through, on a tape as off it. It is set exactly if
since the last build that succeeded the pipeline has refused to play, to take a buffer or to put the
fallback on air, or an error has been handled; and then the loop does not run any more. A build that
succeeds clears it. Any other turn adds to it the mishaps that happen in this turn, and nothing
else: the end of the stream, warnings, wake-ups and an accepted switch to the fallback are none.
In particular builds and starts that fail leave it as it is, and so does a stop, if the pipeline
raises no error at it. -/
theorem errorDetected_of_run (engine : ρ) (settings : PlayerSettings) (turns : List (Turn ρ)) :
    let fresh : Player (Tape ρ) (Taped π) := new (.fresh engine) settings
    let p := fresh.after (turns.map Turn.onTape)
    let calls := p.engine.log.newest
    let events := fresh.handledSince [] (turns.map Turn.onTape)
    p.untaped = (new engine settings).after turns ∧
      (p.status.errorDetected = true ↔
        (.play, false) ∈ calls ∨ (∃ buffer, (.push buffer, false) ∈ calls) ∨
          (.select .fallback, false) ∈ calls ∨ ∃ source message, .error source message ∈ events) ∧
      (p.status.errorDetected = true → p.loopRuns = false) ∧
      (∀ turn : Turn ρ,
        let q := p.take turn.onTape
        if p.renews turn.onTape then q.status.errorDetected = false
        else ∃ later, q.engine.log.newest = calls ++ later ∧
          q.status.errorDetected = (p.status.errorDetected || later.any Call.isMishap ||
            (p.handledIn turn.onTape).any Event.isError)) ∧
      (∀ request cause, (p.build request).1 = .error cause →
        (p.build request).2.status = p.status) ∧
      (∀ cause, p.start.1 = .error cause → p.start.2 = p) ∧
      (EndsQuietly ρ → p.stop.status.errorDetected = p.status.errorDetected) := by
  intro fresh p calls events
  have hagrees : p.Agrees (fresh.ledgerOf .blank (turns.map Turn.onTape)) :=
    (Agrees.new engine settings).after turns
  have hfresh : fresh.Marked [] := by
    rw [Marked]
    rfl
  have hmarked : p.Marked events := (Agrees.new engine settings).marked_after hfresh turns
  have hsilenced : p.Silenced := by
    apply Silenced.after
    intro noted
    cases noted
  have hcaughtUp : p.CaughtUp := (CaughtUp.new (Tape.fresh engine) settings).after _
  refine ⟨(after_untaped fresh turns).symm, ?_, hsilenced.loopRuns_eq_false, ?_, ?_, ?_, ?_⟩
  · rw [hmarked, Bool.or_eq_true, Call.any_isMishap_iff, Event.any_isError_iff, or_assoc, or_assoc]
  · intro turn q
    cases hr : p.renews turn.onTape with
    | false => exact hagrees.accounts_take hr
    | true => exact errorDetected_of_renews hr
  · intro request cause h
    exact status_build h
  · intro cause h
    exact start_of_error h
  · intro hquiet
    exact hcaughtUp.errorDetected_stop hquiet.onTape

/-- The live source refuses a frame. -/
def refusedFrame : List (Turn Recorder) :=
  [buildFor "udp://h:1", .action .start, .action (.submit ⟨1, [10]⟩),
    .action (.alter fun recorder =>
      { recorder with faults := { recorder.faults with push := some .flushing } }),
    .action (.post .needData)]

theorem errorDetected_of_refusedFrame :
    let p : Player (Tape Recorder) (Taped Nat) :=
      (new (.fresh (.withFaults .none)) ⟨100, 4⟩).after (refusedFrame.map Turn.onTape)
    let request : BuildRequest := ⟨.live, .h264, 640, 480, 25, 1000, "", true⟩
    (p.status.errorDetected = true ∧ p.loopRuns = false) ∧
      ((p.build request).1 = .error .playing ∧ (p.build request).2.status = p.status) ∧
      (p.start.1 = .error .running ∧ p.start.2 = p) ∧
      p.stop.status.errorDetected = true := by
  intro p request
  obtain ⟨-, hiff, hends, -, hbuild, hstart, hstop⟩ :=
    errorDetected_of_run (.withFaults .none : Recorder) ⟨100, 4⟩ refusedFrame
  have hrefused : (.push ⟨0, [10]⟩, false) ∈ p.engine.log.newest := by decide +kernel
  have hnoted : p.status.errorDetected = true := hiff.2 (.inr (.inl ⟨_, hrefused⟩))
  have hbusy : (p.build request).1 = .error .playing := by rfl
  have hrunning : p.start.1 = .error .running := by rfl
  exact ⟨⟨hnoted, hends hnoted⟩, ⟨hbusy, hbuild _ _ hbusy⟩, ⟨hrunning, hstart _ hrunning⟩,
    (hstop Recorder.endsQuietly).trans hnoted⟩

/-- An error that waits behind the end of the stream is never handled. -/
example :
    let fresh : Player Recorder Nat := new (.withFaults .none) ⟨100, 4⟩
    let turns : List (Turn Recorder) :=
      [buildFor "udp://h:1", .action (.post .endOfStream),
        .action (.post (.error none "late")), .action .start]
    fresh.handledSince [] turns = [.endOfStream] ∧
      (fresh.after turns).status.errorDetected = false := by
  decide +kernel

end Player

end StandbyStream
