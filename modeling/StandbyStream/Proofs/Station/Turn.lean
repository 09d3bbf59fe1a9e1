import StandbyStream.Proofs.Player.Turn
import StandbyStream.Proofs.Station.Untaped

/-!
# Turns of a station

What a station goes through is a list of turns: actions, and ends of the waits of its player. How a
turn ends is said once, by `TurnEnd`: the station passes something on to its player, does nothing,
starts the stream or fails to, or stops it. Which starts are accepted is read off the answers of the
station (`acceptedBy`).
-/

namespace StandbyStream.Station

variable {ρ π : Type}

/-! ## Turns -/

/-- What a station goes through. -/
inductive Turn (ρ : Type) where
  | action (a : Action ρ)
  /-- The wait of a pull is over. -/
  | expiry

/-- A turn for a station whose engine is on a tape. -/
def Turn.onTape : Turn ρ → Turn (Tape ρ)
  | .action a => .action a.onTape
  | .expiry => .expiry

/-- What a station passes on to its player and does not care about. -/
def Turn.relayed? : Turn ρ → Option (Player.Turn ρ)
  | .action (.chunk raw) =>
    match Frame.ofWire raw with
    | .ok frame => some (.action (.submit frame))
    | .error _ => none
  | .action (.submit frame) => some (.action (.submit frame))
  | .action (.post event) => some (.action (.post event))
  | .action (.alter change) => some (.action (.alter change))
  | .expiry => some .expiry
  | _ => none

theorem Turn.relayed_onTape (turn : Turn ρ) :
    turn.onTape.relayed? = turn.relayed?.map Player.Turn.onTape := by
  cases turn with
  | expiry => rfl
  | action a =>
      cases a with
      | chunk raw =>
          simp only [onTape, Action.onTape, relayed?]
          cases Frame.ofWire raw <;> rfl
      | _ => rfl

variable [MediaEngine ρ π]

/-- The station after a turn. -/
def take (s : Station ρ π) : Turn ρ → Station ρ π
  | .action a => s.act a
  | .expiry => { s with player := s.player.expire }

/-- The station after turns, the first one first. -/
def after (s : Station ρ π) (turns : List (Turn ρ)) : Station ρ π :=
  turns.foldl take s

@[simp] theorem after_nil (s : Station ρ π) : s.after [] = s := rfl

@[simp] theorem after_cons (s : Station ρ π) (turn : Turn ρ) (turns : List (Turn ρ)) :
    s.after (turn :: turns) = (s.take turn).after turns := rfl

theorem take_untaped (s : Station (Tape ρ) (Taped π)) (turn : Turn ρ) :
    s.untaped.take turn = (s.take turn.onTape).untaped := by
  cases turn with
  | action a => exact s.act_untaped a
  | expiry =>
      exact congrArg (fun player => { s.untaped with player }) s.player.expire_untaped

/-- Taking the tape off commutes with turns: a station does not notice the tape. -/
theorem after_untaped (s : Station (Tape ρ) (Taped π)) (turns : List (Turn ρ)) :
    s.untaped.after turns = (s.after (turns.map Turn.onTape)).untaped := by
  induction turns generalizing s with
  | nil => rfl
  | cons turn turns ih =>
      rw [List.map_cons, after_cons, after_cons, take_untaped, ih]

/-! ## Starts that are accepted -/

/-- The overrides of a start, if the start is answered with `ok`. -/
def ifAccepted (overrides : List Overrides) : Except Fault Unit → Option (List Overrides)
  | .ok () => some overrides
  | .error _ => none

/-- The start that is accepted in a turn, by command or not, with the overrides that it carries. -/
def acceptedBy (s : Station ρ π) : Turn ρ → Option (List Overrides)
  | .action (.command message) =>
    match Command.parse message with
    | .ok (.start overrides) => ifAccepted [overrides] (s.command message).1
    | _ => none
  | .action .start => ifAccepted [] s.start.1
  | _ => none

/-- Some start is accepted in turns. -/
def startsIn (s : Station ρ π) : List (Turn ρ) → Bool
  | [] => false
  | turn :: turns => (s.acceptedBy turn).isSome || (s.take turn).startsIn turns

/-- The overrides of the starts that are accepted in turns, the first one first. -/
def overridesIn (s : Station ρ π) : List (Turn ρ) → List Overrides
  | [] => []
  | turn :: turns => (s.acceptedBy turn).getD [] ++ (s.take turn).overridesIn turns

/-! ## How a turn ends -/

/-- How a turn ends: with which start, and where the station is then. -/
inductive TurnEnd (s : Station ρ π) (turn : Turn ρ) :
    Option (List Overrides) → Station ρ π → Prop
  | relayed {passed : Player.Turn ρ} (h : turn.relayed? = some passed) :
      TurnEnd s turn none { s with player := s.player.take passed }
  /-- A message or the parameters are not in order, or the stream needs no restart. -/
  | idle : TurnEnd s turn none s
  | failed {p : Parameters} {cause : Player.BuildFault} {player : Player ρ π}
      (h : s.player.build (s.request p) = (.error cause, player)) :
      TurnEnd s turn none { s with player }
  /-- The stream is started. The parameters are those at hand, with the overrides in their place,
  and in bounds. -/
  | started {overrides : List Overrides} {p : Parameters} {player : Player ρ π}
      (hp : p = overrides.foldl Parameters.override s.parameters) (valid : p.check = .ok ())
      (h : s.player.build (s.request p) = (.ok (), player)) :
      TurnEnd s turn (some overrides) (s.afterStart player p)
  | stopped : TurnEnd s turn none s.stop
  | lost {cause : Player.BuildFault} {player : Player ρ π} (needed : s.needsRestart = true)
      (h : s.player.stop.build (s.request s.parameters) = (.error cause, player)) :
      TurnEnd s turn none { s with player }
  | restarted {player : Player ρ π} (needed : s.needsRestart = true)
      (h : s.player.stop.build (s.request s.parameters) = (.ok (), player)) :
      TurnEnd s turn none (s.afterStart player s.parameters)

theorem turnEnd_checkAndStart (s : Station ρ π) (turn : Turn ρ) {overrides : List Overrides}
    {p : Parameters} (hp : p = overrides.foldl Parameters.override s.parameters) :
    TurnEnd s turn (ifAccepted overrides (s.checkAndStart p).1) (s.checkAndStart p).2 := by
  rw [checkAndStart.eq_def]
  cases hvalid : p.check with
  | error cause => exact .idle
  | ok _ =>
      cases hb : s.player.build (s.request p) with
      | mk answer player =>
          cases answer with
          | error cause =>
              simp only [startWith_of_failed hb]
              exact .failed hb
          | ok _ =>
              simp only [startWith_of_built hb]
              exact .started hp hvalid hb

theorem turnEnd_command (s : Station ρ π) (message : Bytes) :
    TurnEnd s (.action (.command message)) (s.acceptedBy (.action (.command message)))
      (s.command message).2 := by
  rw [acceptedBy]
  cases hm : Command.parse message with
  | error cause =>
      have hc : s.command message = (.error (.command cause), s) := by rw [command.eq_def, hm]
      rw [hc]
      exact .idle
  | ok c =>
      cases c with
      | start overrides =>
          have hc : s.command message = s.checkAndStart (s.parameters.override overrides) := by
            rw [command.eq_def, hm]
          have hp : s.parameters.override overrides =
              [overrides].foldl Parameters.override s.parameters := rfl
          rw [hc]
          exact s.turnEnd_checkAndStart _ hp
      | stop =>
          have hc : s.command message = (.ok (), s.stop) := by rw [command.eq_def, hm]
          rw [hc]
          exact .stopped

theorem turnEnd_chunk (s : Station ρ π) (raw : Bytes) :
    TurnEnd s (.action (.chunk raw)) none (s.chunk raw).2 := by
  rw [chunk.eq_def]
  cases hf : Frame.ofWire raw with
  | error cause => exact .idle
  | ok frame =>
      have hr : (Turn.action (.chunk raw) : Turn ρ).relayed? = some (.action (.submit frame)) := by
        simp only [Turn.relayed?, hf]
      exact .relayed hr

theorem turnEnd_supervise (s : Station ρ π) :
    TurnEnd s (.action .supervise) none s.supervise.2 := by
  have hend := s.supervision_end
  generalize s.supervise = result at hend
  cases hend with
  | idle => exact .idle
  | failed needed h => exact .lost needed h
  | restarted needed h => exact .restarted needed h

theorem turn_end (s : Station ρ π) (turn : Turn ρ) :
    TurnEnd s turn (s.acceptedBy turn) (s.take turn) := by
  have relay : ∀ {turn : Turn ρ} (passed : Player.Turn ρ), turn.relayed? = some passed →
      TurnEnd s turn none { s with player := s.player.take passed } := fun _ h => .relayed h
  cases turn with
  | expiry => exact relay .expiry rfl
  | action a =>
      cases a with
      | command message => exact s.turnEnd_command message
      | start => exact s.turnEnd_checkAndStart _ rfl
      | chunk raw => exact s.turnEnd_chunk raw
      | submit frame => exact relay (.action (.submit frame)) rfl
      | post event => exact relay (.action (.post event)) rfl
      | supervise => exact s.turnEnd_supervise
      | stop => exact .stopped
      | alter change => exact relay (.action (.alter change)) rfl

/-! ## Turns of the player -/

/-- What lasts in a player lasts through all that is passed on to it, if it is not about the queue
and not about the engine. -/
theorem relayed_of_durable {I : Player ρ π → Prop} (h : Player.Durable I)
    (hqueue : ∀ {p : Player ρ π} (queue : FrameQueue), I p → I { p with queue })
    (hengine : ∀ {p : Player ρ π} (engine : ρ), I p → I { p with engine }) {turn : Turn ρ}
    {passed : Player.Turn ρ} (ht : turn.relayed? = some passed) {p : Player ρ π} (hp : I p) :
    I (p.take passed) := by
  have hsubmit : ∀ frame, I (p.submit frame) := fun _ => h.submit (hqueue _ hp)
  cases turn with
  | expiry =>
      cases ht
      exact h.expire hp
  | action a =>
      cases a with
      | chunk raw =>
          rw [Turn.relayed?] at ht
          split at ht
          · cases ht
            exact hsubmit _
          · cases ht
      | submit frame =>
          cases ht
          exact hsubmit frame
      | post event =>
          cases ht
          exact h.post hp event
      | alter change =>
          cases ht
          exact h.alter (hengine _ hp)
      | _ => cases ht

/-- Whatever a station goes through, its player goes through turns of its own. -/
theorem player_take (s : Station (Tape ρ) (Taped π)) (turn : Turn ρ) :
    ∃ turns : List (Player.Turn ρ),
      (s.take turn.onTape).player = s.player.after (turns.map Player.Turn.onTape) := by
  have hend := s.turn_end turn.onTape
  generalize s.acceptedBy turn.onTape = accepted, s.take turn.onTape = s' at hend
  cases hend with
  | relayed h =>
      rw [Turn.relayed_onTape] at h
      obtain ⟨passed, -, rfl⟩ := Option.map_eq_some_iff.1 h
      exact ⟨[passed], rfl⟩
  | idle => exact ⟨[], rfl⟩
  | @failed p _ _ h =>
      exact ⟨[.action (.build (s.request p))], (congrArg Prod.snd h).symm⟩
  | @started _ p _ _ _ h =>
      have hstart := congrArg (fun result => result.2.start.2) h
      exact ⟨[.action (.build (s.request p)), .action .start], hstart.symm⟩
  | stopped => exact ⟨[.action .stop], rfl⟩
  | lost _ h =>
      exact ⟨[.action .stop, .action (.build (s.request s.parameters))],
        (congrArg Prod.snd h).symm⟩
  | restarted _ h =>
      have hstart := congrArg (fun result => result.2.start.2) h
      exact ⟨[.action .stop, .action (.build (s.request s.parameters)), .action .start],
        hstart.symm⟩

theorem player_after (s : Station (Tape ρ) (Taped π)) (turns : List (Turn ρ)) :
    ∃ turns' : List (Player.Turn ρ),
      (s.after (turns.map Turn.onTape)).player =
        s.player.after (turns'.map Player.Turn.onTape) := by
  induction turns generalizing s with
  | nil => exact ⟨[], rfl⟩
  | cons turn turns ih =>
      obtain ⟨first, hfirst⟩ := s.player_take turn
      obtain ⟨rest, hrest⟩ := ih (s.take turn.onTape)
      refine ⟨first ++ rest, ?_⟩
      rw [List.map_cons, after_cons, hrest, hfirst, List.map_append, Player.after_append]

end StandbyStream.Station
