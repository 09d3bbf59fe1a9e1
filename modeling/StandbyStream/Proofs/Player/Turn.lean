import StandbyStream.Proofs.Player.Untaped

/-!
# Turns

A player is read at rest, and at rest a pull may be waiting for a frame. Such a wait comes to its
end some time, unless a frame comes or the queue is closed before (`expire`). What a player goes
through is therefore a list of turns: actions, and ends of waits. How long a wait is does not enter
into it: a wait that lasts is served by a frame, cut short by a stop, or over, in any order with all
that happens meanwhile.

A property that holds through the beginning of a loop and through each of its steps holds through
everything that is left to a loop (`Durable`). What is done from outside, a build, a stop, a frame
or a change of the engine, is looked at for each property by itself.
-/

namespace StandbyStream.Player

variable {ρ π : Type}

/-! ## The end of a wait -/

/-- A pull waits for a frame. -/
def waits (p : Player ρ π) : Bool :=
  p.held.any fun held => held.running.any (·.phase == .pulling)

/-- A pull finds no frame in time, if one has been waiting. -/
def expire [MediaEngine ρ π] (p : Player ρ π) : Player ρ π :=
  if p.waits then
    { ({ p with patience := .brief } : Player ρ π).settle with patience := p.patience }
  else p

theorem expire_of_held_none [MediaEngine ρ π] {p : Player ρ π} (h : p.held = none) :
    p.expire = p := by
  have hw : p.waits = false := by simp [waits, h]
  rw [expire, hw]
  exact if_neg Bool.false_ne_true

theorem stage_expire [MediaEngine ρ π] (p : Player ρ π) : p.expire.stage = p.stage := by
  rw [expire]
  split
  · exact stage_settle { p with patience := .brief }
  · rfl

/-- What a player goes through. -/
inductive Turn (ρ : Type) where
  | action (a : Action ρ)
  /-- The wait of a pull is over. -/
  | expiry

/-- A turn for a player whose engine is on a tape. -/
def Turn.onTape : Turn ρ → Turn (Tape ρ)
  | .action a => .action a.onTape
  | .expiry => .expiry

/-- The frame that is submitted in a turn. -/
def Turn.frame? : Turn ρ → Option Frame
  | .action (.submit frame) => some frame
  | _ => none

variable [MediaEngine ρ π]

/-- The player after a turn. -/
def take (p : Player ρ π) : Turn ρ → Player ρ π
  | .action a => p.act a
  | .expiry => p.expire

/-- The player after turns, the first one first. -/
def after (p : Player ρ π) (turns : List (Turn ρ)) : Player ρ π :=
  turns.foldl take p

@[simp] theorem after_nil (p : Player ρ π) : p.after [] = p := rfl

@[simp] theorem after_cons (p : Player ρ π) (turn : Turn ρ) (turns : List (Turn ρ)) :
    p.after (turn :: turns) = (p.take turn).after turns := rfl

theorem after_append (p : Player ρ π) (turns turns' : List (Turn ρ)) :
    p.after (turns ++ turns') = (p.after turns).after turns' :=
  List.foldl_append

/-! ## Off the tape -/

theorem expire_untaped (p : Player (Tape ρ) (Taped π)) :
    p.untaped.expire = p.expire.untaped := by
  have hw : p.untaped.waits = p.waits := by
    cases hh : p.held <;> simp [waits, untaped, hh, Held.untaped]
  have hs := settle_untaped ({ p with patience := .brief } : Player (Tape ρ) (Taped π))
  rw [expire, expire, hw]
  split
  · exact congrArg (fun q : Player ρ π => { q with patience := p.patience }) hs
  · rfl

theorem take_untaped (p : Player (Tape ρ) (Taped π)) (turn : Turn ρ) :
    p.untaped.take turn = (p.take turn.onTape).untaped := by
  cases turn with
  | action a => exact act_untaped p a
  | expiry => exact expire_untaped p

/-- Taking the tape off commutes with turns: a player does not notice the tape. -/
theorem after_untaped (p : Player (Tape ρ) (Taped π)) (turns : List (Turn ρ)) :
    p.untaped.after turns = (p.after (turns.map Turn.onTape)).untaped := by
  induction turns generalizing p with
  | nil => rfl
  | cons turn turns ih =>
      rw [List.map_cons, after_cons, after_cons, take_untaped, ih]

/-! ## Properties that last -/

/-- A property that a loop does not end: not by beginning, not by a step, and not by what it has
still to handle or how long its pulls wait. -/
structure Durable (I : Player ρ π → Prop) : Prop where
  patience : ∀ {p : Player ρ π}, I p → ∀ patience, I { p with patience }
  pending : ∀ {p : Player ρ π} {held : Held π}, p.held = some held → I p →
    ∀ pending, I { p with held := some { held with pending } }
  begin : ∀ {p : Player ρ π} {held : Held π}, p.held = some held → held.running = none → I p →
    I (p.withLoop held (p.firstLoop held))
  step : ∀ {p : Player ρ π} {held : Held π} {running : Running} {l : Loop ρ π},
    p.held = some held → held.running = some running → Loop.Step (p.loop held running) l → I p →
    I (p.withLoop held l)

omit [MediaEngine ρ π] in
/-- A loop that is put back as it was changes nothing. -/
theorem withLoop_loop {p : Player ρ π} {held : Held π} {running : Running}
    (hh : p.held = some held) (hr : held.running = some running) :
    p.withLoop held (p.loop held running) = p := by
  obtain ⟨engine, patience, queue, status, state, held', quit⟩ := p
  obtain ⟨topology, pipeline, pending, running'⟩ := held
  simp only at hh hr
  subst hh hr
  rfl

namespace Durable

variable {I : Player ρ π → Prop} {p : Player ρ π}

/-- The steps of a loop are put together from single ones. -/
theorem steps (h : Durable I) {held : Held π} {running : Running} {l : Loop ρ π}
    (hh : p.held = some held) (hr : held.running = some running)
    (hs : Loop.Steps (p.loop held running) l) (hp : I p) : I (p.withLoop held l) := by
  induction hs with
  | refl =>
      rw [withLoop_loop hh hr]
      exact hp
  | @tail l l' hs hstep ih =>
      -- the loop that was put back last is the one that the next step starts from
      obtain ⟨hpatience, hquit, -⟩ := Loop.Steps.frame hs
      have hl : (p.withLoop held l).loop (heldAt held l) ⟨l.feed, l.phase⟩ = l :=
        loop_withLoop hpatience hquit
      rw [← hl] at hstep
      have hnext : I ((p.withLoop held l).withLoop (heldAt held l) l') :=
        h.step (held_withLoop p held l) rfl hstep ih
      exact hnext

theorem settle (h : Durable I) (hp : I p) : I p.settle := by
  rcases p.settle_cases with hs | ⟨held, running, hh, hr⟩
  · rw [hs]
    exact hp
  · rw [settle_of_running hh hr]
    exact h.steps hh hr (Loop.settle_steps _) hp

theorem submit (h : Durable I) {frame : Frame}
    (hp : I ({ p with queue := (p.queue.push frame).2 })) : I (p.submit frame) :=
  h.settle hp

theorem alter (h : Durable I) {change : ρ → ρ}
    (hp : I ({ p with engine := change p.engine })) : I (p.alter change) :=
  h.settle hp

theorem start (h : Durable I) (hp : I p) : I p.start.2 := by
  have hend := p.start_end
  generalize p.start = result at hend
  cases hend with
  | refused => exact hp
  | begun hh hr => exact h.settle (h.begin hh hr hp)

theorem post (h : Durable I) (hp : I p) (event : Event) : I (p.post event).2 := by
  rw [Player.post.eq_def]
  split
  · exact hp
  next held hh =>
    split
    · exact hp
    · exact h.settle (h.pending hh hp _)

theorem expire (h : Durable I) (hp : I p) : I p.expire := by
  rw [Player.expire]
  split
  · exact h.patience (h.settle (h.patience hp .brief)) p.patience
  · exact hp

end Durable

end StandbyStream.Player
