import StandbyStream.Proofs.Player.Turn

/-!
# Players at rest

Every operation ends with the loop of the player run to rest. At rest the loop has handled all that
was raised, unless a pull waits for a frame: then later events wait behind it
(`Player.CaughtUp.after`). A loop that has ended has dropped what was left.
-/

namespace StandbyStream

variable {ρ π : Type}

namespace Loop

/-- A loop that has ended has nothing left to handle. -/
def Tidy (l : Loop ρ π) : Prop :=
  l.phase = .ended → l.pending = []

/-- Nothing is left to handle, unless a pull waits. -/
def CaughtUp (l : Loop ρ π) : Prop :=
  l.phase ≠ .pulling → l.pending = []

theorem CaughtUp.tidy {l : Loop ρ π} (h : l.CaughtUp) : l.Tidy := by
  intro off
  apply h
  simp [off]

variable [MediaEngine ρ π] {l l' : Loop ρ π}

/-- A step that ends the loop drops what is left. -/
theorem Step.tidy (h : Step l l') : l'.Tidy := by
  have on := h.phase_ne_ended
  intro off
  cases h with
  | closed => rfl
  | refused => rfl
  | stuck => rfl
  | ended => rfl
  | failed => rfl
  | handled => exact absurd off on
  | demanded => exact absurd off on
  | _ => cases off

theorem tidy_settle (h : l.Tidy) : l.settle.Tidy :=
  settle_induction (fun hstep _ => hstep.tidy) h

/-- A loop that begins listens, or has ended and dropped what was raised before. -/
theorem tidy_begin (l : Loop ρ π) : l.begin.Tidy := by
  intro off
  rw [begin.eq_def] at off ⊢
  split
  · rfl
  · next hplay =>
      rw [hplay] at off
      cases off

/-- A pull takes no event off the list. -/
theorem pending_pull (h : l.pending = []) : l.pull.pending = [] := by
  rw [pull.eq_def]
  rcases l.feed.pull l.patience l.deck with ⟨outcome, feed, deck⟩
  cases outcome with
  | fatal fault => rfl
  | closed => rfl
  | _ => exact h

/-- A loop that still listens after events has handled them all. -/
theorem pending_handleAll (events : List Event) (l : Loop ρ π)
    (h : (l.handleAll events).phase = .listening) : (l.handleAll events).pending = [] := by
  induction events generalizing l with
  | nil => rfl
  | cons event rest ih =>
      rw [handleAll.eq_def] at h ⊢
      simp only at h ⊢
      -- any other way out of the list leaves the loop pulling or ended
      cases hp : (l.handle event).phase with
      | listening =>
          simp only [hp] at h ⊢
          split
          · rfl
          · next hq =>
              rw [if_neg hq] at h
              exact ih _ h
      | pulling =>
          simp only [hp] at h
          cases h
      | ended =>
          simp only [hp] at h
          cases h

theorem pending_serveDemand (count : Nat) (l : Loop ρ π)
    (h : l.phase = .listening → l.pending = []) :
    (l.serveDemand count).phase = .listening → (l.serveDemand count).pending = [] := by
  induction count generalizing l with
  | zero => exact h
  | succ count ih =>
      rw [serveDemand.eq_def]
      simp only
      split
      · next rig on _ =>
          apply ih
          intro _
          exact pending_pull (h on)
      · exact h

/-- A loop at rest has caught up. -/
theorem caughtUp_settle (h : l.Tidy) : l.settle.CaughtUp := by
  intro hne
  cases hp : l.settle.phase with
  | pulling => exact absurd hp hne
  | ended => exact tidy_settle h hp
  | listening =>
      rw [settle.eq_def] at hp ⊢
      simp only at hp ⊢
      split at hp
      · exact pending_serveDemand _ _ (pending_handleAll _ _) hp
      · next off => exact pending_serveDemand _ _ (fun on => absurd on off) hp

end Loop

namespace Player

/-- The loop of the held pipeline, if it has been started, has caught up. -/
def CaughtUp (p : Player ρ π) : Prop :=
  ∀ held running, p.held = some held → held.running = some running →
    (p.loop held running).CaughtUp

namespace CaughtUp

variable {p : Player ρ π}

theorem of_held_none (h : p.held = none) : p.CaughtUp := by
  intro held running hh
  rw [h] at hh
  cases hh

variable [MediaEngine ρ π]

/-- A loop that runs to rest catches up, unless it had ended with something left. -/
theorem settle
    (h : ∀ held running, p.held = some held → held.running = some running →
      (p.loop held running).Tidy) : p.settle.CaughtUp := by
  cases hh : p.held with
  | none =>
      rw [settle_of_held_none hh]
      exact of_held_none hh
  | some held =>
      cases hr : held.running with
      | none =>
          rw [settle_of_unstarted hh hr]
          intro held' running hh' hr'
          rw [hh] at hh'
          cases hh'
          rw [hr] at hr'
          cases hr'
      | some running =>
          obtain ⟨hpatience, hquit, -⟩ := (Loop.settle_steps (p.loop held running)).frame
          rw [settle_of_running hh hr]
          rintro _ _ ⟨⟩ ⟨⟩
          have hl : (p.withLoop held (p.loop held running).settle).loop
              (heldAt held (p.loop held running).settle) _ = (p.loop held running).settle :=
            loop_withLoop hpatience hquit
          rw [heldAt] at hl
          rw [hl]
          exact Loop.caughtUp_settle (h held running hh hr)

omit [MediaEngine ρ π] in
/-- In a player that has caught up, a loop that has ended has nothing left to handle. -/
theorem tidy (h : p.CaughtUp) {held : Held π} {running : Running} (hh : p.held = some held)
    (hr : held.running = some running) : running.phase = .ended → held.pending = [] :=
  (h held running hh hr).tidy

theorem start (h : p.CaughtUp) : p.start.2.CaughtUp := by
  have hend := p.start_end
  generalize p.start = result at hend
  cases hend with
  | refused => exact h
  | @begun held hh hr =>
      apply settle
      rintro _ _ ⟨⟩ ⟨⟩
      exact Loop.tidy_begin (p.unbegun held)

theorem build (h : p.CaughtUp) (request : BuildRequest) : (p.build request).2.CaughtUp := by
  have hend := build_end p request
  generalize p.build request = result at hend
  cases hend with
  | refused => exact h
  | failed => exact of_held_none rfl
  | built =>
      rintro _ _ ⟨⟩ hr
      cases hr

theorem post (h : p.CaughtUp) (event : Event) : (p.post event).2.CaughtUp := by
  rw [Player.post.eq_def]
  split
  · exact h
  next held hh =>
    split
    · exact h
    · next hn =>
        apply settle
        rintro _ running ⟨⟩ hr off
        -- nothing is posted to a loop that has ended
        apply absurd _ hn
        have hr' : held.running = some running := hr
        have hended : running.phase = .ended := off
        simp [loopEnded, hh, hr', hended]

theorem expire (h : p.CaughtUp) : p.expire.CaughtUp := by
  rw [Player.expire]
  split
  · have hs : ({ p with patience := .brief } : Player ρ π).settle.CaughtUp :=
      settle fun _ _ hh hr => h.tidy hh hr
    exact hs
  · exact h

theorem take (h : p.CaughtUp) (turn : Turn ρ) : (p.take turn).CaughtUp := by
  cases turn with
  | action a =>
      cases a with
      | build request => exact h.build request
      | start => exact h.start
      | stop => exact of_held_none (held_of_stage (stage_stop p))
      | submit frame => exact settle fun _ _ hh hr => h.tidy hh hr
      | post event => exact h.post event
      | alter change => exact settle fun _ _ hh hr => h.tidy hh hr
  | expiry => exact h.expire

theorem after (h : p.CaughtUp) (turns : List (Turn ρ)) : (p.after turns).CaughtUp := by
  induction turns generalizing p with
  | nil => exact h
  | cons turn turns ih => exact ih (h.take turn)

omit [MediaEngine ρ π] in
theorem new (engine : ρ) (settings : PlayerSettings) :
    (Player.new engine settings : Player ρ π).CaughtUp :=
  of_held_none rfl

end CaughtUp

end Player

end StandbyStream
