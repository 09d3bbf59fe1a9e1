import StandbyStream.Proofs.Player.Chronicle
import StandbyStream.Proofs.Player.Turn

/-!
# Demands

Whether a player asks for the fallback is decided by the demands that its loops handle. A demand is
listed as the loop stands when it pulls: `Loop.demands` lists those of a loop that runs to rest,
`Player.demandsIn` those of a player that goes through turns. It finds the loop starved if the live
input is on air, the queue is open and empty, and the wait is over.

Inputs are asked for by starved demands alone, and by every one of them: the calls on a tape that
ask for one are those of the starved demands, one for one and in their order
(`Player.switches_after`).
-/

namespace StandbyStream

/-- The input that a call asks for. -/
def Call.input? : Call → Option Input
  | .select input => some input
  | _ => none

/-- A call that asks for an input: the pipeline, the input, and whether it was put on air. -/
abbrev SwitchCall := Nat × Input × Bool

namespace Log

/-- The calls on a tape that ask for an input. -/
def switches (log : Log) : List SwitchCall :=
  log.filterMap fun
    | .made _ => none
    | .call number call accepted => call.input?.map fun input => (number, input, accepted)

@[simp] theorem switches_append (log log' : Log) :
    switches (log ++ log') = log.switches ++ log'.switches :=
  List.filterMap_append

end Log

/-- A farewell asks for no input. -/
theorem Farewell.switches_calls (f : Farewell) (number : Nat) :
    (Log.entries number f.calls).switches = [] := by
  obtain ⟨_ | accepted, halted⟩ := f <;> rfl

variable {ρ π : Type}

theorem Rig.Told.switches {rig rig' : Rig (Tape ρ) (Taped π)} {calls : List (Call × Bool)}
    (h : rig.Told rig' calls) :
    rig'.engine.log.switches =
      rig.engine.log.switches ++ (Log.entries rig.pipeline.number calls).switches := by
  rw [h.2, Log.switches_append]

variable [MediaEngine ρ π]

namespace Loop

/-! ## Starved demands -/

/-- The live input is on air, the queue is open and empty, and a pull does not wait any longer. -/
structure Starved (l : Loop ρ π) : Prop where
  live : ¬ l.feed.Idle
  queueOpen : l.deck.queue.closed = false
  empty : l.deck.queue.frames = []
  late : l.patience = .brief

omit [MediaEngine ρ π] in
theorem starved_iff (l : Loop ρ π) :
    l.Starved ↔ ¬ (l.feed.mode = .fallbackOnly ∨ l.feed.failedOver = true) ∧
      l.deck.queue.closed = false ∧ l.deck.queue.frames = [] ∧ l.patience = .brief :=
  ⟨fun h => ⟨h.live, h.queueOpen, h.empty, h.late⟩, fun h => ⟨h.1, h.2.1, h.2.2.1, h.2.2.2⟩⟩

instance : DecidablePred (Starved : Loop ρ π → Prop) :=
  fun l => decidable_of_iff _ l.starved_iff.symm

/-- What a starved demand asks for, and whether it gets it. -/
def switchCall (l : Loop (Tape ρ) (Taped π)) : SwitchCall :=
  (l.deck.rig.pipeline.number, .fallback, (MediaEngine.select .fallback l.deck.rig).1.isOk)

/-- The calls for an input that come of demands. -/
def switchCalls (demands : List (Loop (Tape ρ) (Taped π))) : List SwitchCall :=
  (demands.filter fun l => l.Starved).map switchCall

@[simp] theorem switchCalls_append (demands demands' : List (Loop (Tape ρ) (Taped π))) :
    switchCalls (demands ++ demands') = switchCalls demands ++ switchCalls demands' := by
  rw [switchCalls, List.filter_append, List.map_append]
  rfl

/-- The calls on the tape of a loop that ask for an input. -/
def switches (l : Loop (Tape ρ) (Taped π)) : List SwitchCall :=
  l.deck.rig.engine.log.switches

variable {l l' : Loop (Tape ρ) (Taped π)}

/-- Nothing is asked for in a step of a loop that is not starved. -/
theorem Step.switches_eq (h : Step l l') (fed : ¬ l.Starved) : l'.switches = l.switches := by
  cases h with
  | delivered _ _ _ _ hpush =>
      exact (Rig.told_of_push hpush).switches.trans (List.append_nil _)
  | refused _ _ _ _ hpush =>
      exact (Rig.told_of_push hpush).switches.trans (List.append_nil _)
  | switched _ live hopen hq hp => exact absurd ⟨live, hopen, hq, hp⟩ fed
  | stuck _ live hopen hq hp => exact absurd ⟨live, hopen, hq, hp⟩ fed
  | demanded _ hd => exact (Rig.told_of_raiseDemand hd).switches.trans (List.append_nil _)
  | _ => rfl

/-- A pull asks for the fallback if it is starved, and else for nothing. -/
theorem switches_pull (on : l.phase ≠ .ended) :
    l.pull.switches = l.switches ++ switchCalls [l] := by
  -- a starved pull is known in full; of any other it is enough that it is one step
  by_cases hs : l.Starved
  · have hr : switchCalls [l] = [l.switchCall] := by simp [switchCalls, hs]
    rw [hr, switchCall, pull_of_late hs.live hs.queueOpen hs.empty hs.late]
    cases hsel : MediaEngine.select .fallback l.deck.rig with
    | mk answer rig =>
        have ht := (Rig.told_of_select hsel).switches
        cases answer with
        | error fault => exact ht
        | ok _ => exact ht
  · have hr : switchCalls [l] = [] := by simp [switchCalls, hs]
    rw [hr, List.append_nil]
    exact (pull_step l on).switches_eq hs

/-! ## The demands of a loop -/

variable (l : Loop ρ π)

/-- The demand of an event. -/
def demandOf (event : Event) : List (Loop ρ π) :=
  if event = .needData then [l] else []

/-- The demands among events, as far as the events are handled. -/
def demandsAmong (l : Loop ρ π) : List Event → List (Loop ρ π)
  | [] => []
  | event :: rest =>
    if (l.handle event).phase = .listening ∧ (l.handle event).quit = false then
      l.demandOf event ++ (l.handle event).demandsAmong rest
    else l.demandOf event

/-- The demands that the pipeline raises by itself, at most `count`. -/
def demandsRaised (l : Loop ρ π) : Nat → List (Loop ρ π)
  | 0 => []
  | count + 1 =>
    if l.phase = .listening then
      match MediaEngine.raiseDemand? l.deck.rig with
      | some rig =>
        let raised : Loop ρ π := { l with deck := { l.deck with rig } }
        raised :: raised.pull.demandsRaised count
      | none => []
    else []

/-- The demand with which a loop goes on that has been waiting. -/
def demandsWaiting : List (Loop ρ π) :=
  if l.phase = .pulling then [l] else []

/-- The demands that a loop handles on its way to rest. -/
def demands : List (Loop ρ π) :=
  l.demandsWaiting ++
    match l.resume.phase with
    | .listening =>
      let handled := l.resume.handleAll l.resume.pending
      l.resume.demandsAmong l.resume.pending ++
        handled.demandsRaised (handled.deck.queue.size + 1)
    | _ => l.resume.demandsRaised (l.resume.deck.queue.size + 1)

end Loop

namespace Loop

theorem switches_handle {l : Loop (Tape ρ) (Taped π)} (on : l.phase = .listening)
    (event : Event) : (l.handle event).switches = l.switches ++ switchCalls (l.demandOf event) := by
  cases event with
  | needData => exact switches_pull (by simp [on])
  | _ => exact (List.append_nil _).symm

theorem switches_handleAll (events : List Event) {l : Loop (Tape ρ) (Taped π)}
    (on : l.phase = .listening) :
    (l.handleAll events).switches = l.switches ++ switchCalls (l.demandsAmong events) := by
  induction events generalizing l with
  | nil => exact (List.append_nil _).symm
  | cons event rest ih =>
      -- the rest of the events is handled only if the loop still listens and is not told to quit
      have hfirst := switches_handle on event
      rw [handleAll.eq_def, demandsAmong.eq_def]
      simp only
      cases hp : (l.handle event).phase with
      | listening =>
          cases hq : (l.handle event).quit with
          | true =>
              simp only [if_true, Bool.true_eq_false, and_false, if_false]
              exact hfirst
          | false =>
              have hrest := ih hp
              rw [hfirst, List.append_assoc, ← switchCalls_append] at hrest
              simpa using hrest
      | pulling => exact hfirst
      | ended => exact hfirst

theorem switches_serveDemand (count : Nat) (l : Loop (Tape ρ) (Taped π)) :
    (l.serveDemand count).switches = l.switches ++ switchCalls (l.demandsRaised count) := by
  induction count generalizing l with
  | zero => exact (List.append_nil _).symm
  | succ count ih =>
      rw [serveDemand.eq_def, demandsRaised.eq_def]
      simp only
      split
      · next rig on hd =>
          -- the demand is raised, it pulls, and the others follow
          have hraised : ({ l with deck := { l.deck with rig } } :
              Loop (Tape ρ) (Taped π)).switches = l.switches :=
            (Rig.told_of_raiseDemand hd).switches.trans (List.append_nil _)
          have hrest := ih (pull { l with deck := { l.deck with rig } })
          rw [switches_pull (by simp [on]), hraised, List.append_assoc,
            ← switchCalls_append] at hrest
          rw [if_pos on, hd]
          exact hrest
      · next hnone =>
          split
          · next on =>
              cases hd : MediaEngine.raiseDemand? l.deck.rig with
              | none => exact (List.append_nil _).symm
              | some rig => exact absurd hd (hnone rig on)
          · exact (List.append_nil _).symm

theorem switches_resume (l : Loop (Tape ρ) (Taped π)) :
    l.resume.switches = l.switches ++ switchCalls l.demandsWaiting := by
  rw [resume.eq_def, demandsWaiting]
  cases hp : l.phase with
  | pulling =>
      have hpull := switches_pull (l := l) (by simp [hp])
      simp only [if_true]
      split
      · exact hpull
      · exact hpull
  | listening => exact (List.append_nil _).symm
  | ended => exact (List.append_nil _).symm

/-- A loop that runs to rest asks for what its starved demands ask for. -/
theorem switches_settle (l : Loop (Tape ρ) (Taped π)) :
    l.settle.switches = l.switches ++ switchCalls l.demands := by
  -- what a waiting pull asks for comes first; from there on the loop that has resumed matters alone
  rw [settle.eq_def, demands, switchCalls_append, ← List.append_assoc, ← switches_resume]
  simp only
  generalize l.resume = l'
  cases hp : l'.phase with
  | listening =>
      simp only
      rw [switches_serveDemand, switches_handleAll _ hp, switchCalls_append, List.append_assoc]
  | pulling => exact switches_serveDemand _ _
  | ended => exact switches_serveDemand _ _

end Loop

/-! ## The demands of a player -/

namespace Player

/-- The demands that the loop of a player handles on its way to rest. -/
def demands (p : Player ρ π) : List (Loop ρ π) :=
  match p.held with
  | some held =>
    match held.running with
    | some running => (p.loop held running).demands
    | none => []
  | none => []

/-- The demands that are handled in a turn. -/
def demandsOf (p : Player ρ π) : Turn ρ → List (Loop ρ π)
  | .action (.build _) => []
  | .action .start =>
    match p.held with
    | some held =>
      if held.running.isSome then [] else (p.withLoop held (p.firstLoop held)).demands
    | none => []
  | .action .stop =>
    match p.held with
    | some held => (({ p with state := .stopping } : Player ρ π).takeDown held).askToQuit.demands
    | none => []
  | .action (.submit frame) => ({ p with queue := (p.queue.push frame).2 } : Player ρ π).demands
  | .action (.post event) =>
    match p.held with
    | some held =>
      if p.loopEnded then []
      else ({ p with held := some { held with pending := held.pending ++ [event] } } :
        Player ρ π).demands
    | none => []
  | .action (.alter change) => ({ p with engine := change p.engine } : Player ρ π).demands
  | .expiry => if p.waits then ({ p with patience := .brief } : Player ρ π).demands else []

/-- The demands that are handled in turns. -/
def demandsIn (p : Player ρ π) : List (Turn ρ) → List (Loop ρ π)
  | [] => []
  | turn :: turns => p.demandsOf turn ++ (p.take turn).demandsIn turns

/-- The calls on the tape of a player that ask for an input. -/
def switches (p : Player (Tape ρ) (Taped π)) : List SwitchCall :=
  p.engine.log.switches

variable (p : Player (Tape ρ) (Taped π))

theorem switches_settle : p.settle.switches = p.switches ++ Loop.switchCalls p.demands := by
  rw [demands.eq_def]
  cases hh : p.held with
  | none =>
      rw [settle_of_held_none hh]
      exact (List.append_nil _).symm
  | some held =>
      cases hr : held.running with
      | none =>
          rw [settle_of_unstarted hh hr]
          simp only [hr]
          exact (List.append_nil _).symm
      | some running =>
          rw [settle_of_running hh hr]
          simp only [hr]
          exact (p.loop held running).switches_settle

theorem switches_build (request : BuildRequest) :
    (p.build request).2.switches = p.switches := by
  have hend := build_end p request
  generalize p.build request = result at hend
  cases hend with
  | refused => rfl
  | failed _ _ he => exact congrArg Log.switches (Tape.log_of_attempt he)
  | built _ _ hi =>
      obtain ⟨-, hlog⟩ := Tape.log_of_made hi
      refine (congrArg Log.switches hlog).trans ?_
      rw [Log.switches_append]
      exact List.append_nil _

theorem switches_start :
    p.start.2.switches = p.switches ++ Loop.switchCalls (p.demandsOf (.action .start)) := by
  rw [demandsOf.eq_def]
  simp only
  cases hh : p.held with
  | none =>
      rw [start_of_held_none hh]
      exact (List.append_nil _).symm
  | some held =>
      cases hr : held.running with
      | some running =>
          rw [start_of_running hh hr]
          simp only [hr]
          exact (List.append_nil _).symm
      | none =>
          -- the play is no call for an input, so the demands are those of the loop that has begun
          obtain ⟨played, htold, -⟩ := Loop.told_begin (p.unbegun held)
          have hbegun : (p.withLoop held (p.firstLoop held)).switches = p.switches :=
            htold.switches.trans (List.append_nil _)
          rw [start_of_unstarted hh hr, switches_settle, hbegun]
          simp [hr]

theorem switches_stop :
    p.stop.switches = p.switches ++ Loop.switchCalls (p.demandsOf (.action .stop)) := by
  rw [demandsOf.eq_def]
  simp only
  cases hh : p.held with
  | none =>
      rw [stop_of_held_none hh]
      exact (List.append_nil _).symm
  | some held =>
      obtain ⟨f, -, hdown⟩ := p.log_askedToQuit held
      have hasked : (p.askedToQuit held).switches = p.switches := by
        refine (congrArg Log.switches hdown).trans ?_
        rw [Log.switches_append, f.switches_calls]
        exact List.append_nil _
      rw [stop_of_held hh, ← hasked]
      exact switches_settle _

theorem switches_post (event : Event) :
    (p.post event).2.switches =
      p.switches ++ Loop.switchCalls (p.demandsOf (.action (.post event))) := by
  rw [post.eq_def, demandsOf.eq_def]
  simp only
  cases hh : p.held with
  | none => exact (List.append_nil _).symm
  | some held =>
      simp only
      split
      · exact (List.append_nil _).symm
      · exact switches_settle _

theorem switches_expire :
    p.expire.switches = p.switches ++ Loop.switchCalls (p.demandsOf .expiry) := by
  rw [expire, demandsOf.eq_def]
  simp only
  split
  · exact switches_settle { p with patience := .brief }
  · exact (List.append_nil _).symm

theorem switches_take (turn : Turn ρ) :
    (p.take turn.onTape).switches = p.switches ++ Loop.switchCalls (p.demandsOf turn.onTape) := by
  cases turn with
  | action a =>
      cases a with
      | build request =>
          refine (p.switches_build request).trans ?_
          exact (List.append_nil _).symm
      | start => exact p.switches_start
      | stop => exact p.switches_stop
      | submit frame => exact switches_settle { p with queue := (p.queue.push frame).2 }
      | post event => exact p.switches_post event
      | alter change => exact switches_settle { p with engine := p.engine.alter change }
  | expiry => exact p.switches_expire

/-- Inputs are asked for by the starved demands, one for one. -/
theorem switches_after (turns : List (Turn ρ)) :
    (p.after (turns.map Turn.onTape)).switches =
      p.switches ++ Loop.switchCalls (p.demandsIn (turns.map Turn.onTape)) := by
  induction turns generalizing p with
  | nil => exact (List.append_nil _).symm
  | cons turn turns ih =>
      rw [List.map_cons, after_cons, demandsIn, Loop.switchCalls_append, ih, switches_take,
        List.append_assoc]

end Player

end StandbyStream
