import StandbyStream.Proofs.Player.Heeding
import StandbyStream.Proofs.Player.Stop

/-!
# Hearing events

What a loop makes of events (`Loop.heed`) carries over to the player that holds it: events that are
raised together are heard one by one (`Player.hearAll_heed`), and it is the same whether a pull may
wait no longer after each of them or after all (`Player.lapse_hearAll`). On an engine whose
pipelines raise no demand by themselves, hearing is all that posting is (`Unprompted`).
-/

namespace StandbyStream

variable {ρ π : Type} [MediaEngine ρ π]

/-! ## Loops at rest -/

namespace Loop

/-- At rest a loop that does not wait has nothing to gain from the end of a wait. -/
theorem CaughtUp.lapse_eq {l : Loop ρ π} (h : l.CaughtUp) (hp : l.phase ≠ .pulling) :
    l.lapse = l := by
  have hpending : l.pending = [] := h hp
  have hheed : l.hurry.heed = l.hurry := by
    cases on : l.phase with
    | pulling => exact absurd on hp
    | ended =>
        have on' : l.hurry.phase = .ended := on
        exact heed_of_ended on'
    | listening =>
        have on' : l.hurry.phase = .listening := on
        have hpending' : l.hurry.pending = [] := hpending
        rw [heed_of_listening on', hpending', handleAll, ← hpending]
        rfl
  rw [lapse, hheed, hurry]

/-- A step calls the pipeline at hand or none. -/
theorem Step.told {l l' : Loop (Tape ρ) (Taped π)} (h : Step l l') :
    ∃ calls, l.deck.rig.Told l'.deck.rig calls := by
  cases h with
  | demanded _ hd => exact ⟨_, Rig.told_of_raiseDemand hd⟩
  | delivered _ _ _ _ hpush => exact ⟨_, Rig.told_of_push hpush⟩
  | refused _ _ _ _ hpush => exact ⟨_, Rig.told_of_push hpush⟩
  | switched _ _ _ _ _ hselect => exact ⟨_, Rig.told_of_select hselect⟩
  | stuck _ _ _ _ _ hselect => exact ⟨_, Rig.told_of_select hselect⟩
  | _ => exact ⟨[], .refl _⟩

theorem Steps.told {l l' : Loop (Tape ρ) (Taped π)} (h : Steps l l') :
    ∃ calls, l.deck.rig.Told l'.deck.rig calls := by
  induction h with
  | refl => exact ⟨[], .refl _⟩
  | tail _ hstep ih =>
      obtain ⟨calls, ht⟩ := ih
      obtain ⟨later, ht'⟩ := hstep.told
      exact ⟨calls ++ later, ht.trans ht'⟩

end Loop

/-- The pipelines of an engine raise no demand by themselves. -/
def Unprompted (ρ : Type) {π : Type} [MediaEngine ρ π] : Prop :=
  ∀ rig : Rig ρ π, MediaEngine.raiseDemand? rig = none

theorem Recorder.unprompted : Unprompted Recorder :=
  fun _ => rfl

/-- An engine on a tape raises what it raises off it. -/
theorem Unprompted.onTape (h : Unprompted ρ) : Unprompted (Tape ρ) :=
  fun rig => congrArg (Option.map _) (h rig.untaped)

/-- On such an engine a loop that has heeded what was raised is at rest. -/
theorem Unprompted.settle_eq (h : Unprompted ρ) (l : Loop ρ π) : l.settle = l.heed := by
  have hnone : MediaEngine.raiseDemand? l.heed.deck.rig = none := h _
  rw [Loop.settle_eq, Loop.serveDemand.eq_def]
  simp only [hnone]
  cases l.heed.phase <;> rfl

namespace Player

/-! ## Players that hear -/

/-- The player once its loop, if there is one, has changed. -/
def mapLoop (p : Player ρ π) (f : Loop ρ π → Loop ρ π) : Player ρ π :=
  match p.held with
  | some held =>
    match held.running with
    | some running => p.withLoop held (f (p.loop held running))
    | none => p
  | none => p

/-- Events are put behind those that wait; a loop that has ended takes none. -/
def enqueue (p : Player ρ π) (events : List Event) : Player ρ π :=
  if p.loopEnded then p
  else { p with held := p.held.map fun held => { held with pending := held.pending ++ events } }

/-- The loop heeds what was raised. -/
def heed (p : Player ρ π) : Player ρ π :=
  p.mapLoop Loop.heed

/-- The wait of a pull, if one waits, is over, and the events behind it are heeded. -/
def lapse (p : Player ρ π) : Player ρ π :=
  p.mapLoop Loop.lapse

/-- The player once its loop has heeded an event. -/
def hear (p : Player ρ π) (event : Event) : Player ρ π :=
  (p.enqueue [event]).heed

/-- The player once its loop has heeded events one by one. -/
def hearAll (p : Player ρ π) (events : List Event) : Player ρ π :=
  events.foldl hear p

/-- The player after events have been posted one by one. -/
def postAll (p : Player ρ π) (events : List Event) : Player ρ π :=
  events.foldl (fun p event => (p.post event).2) p

/-- The player once its loop has heeded events, each of them when no pull waits any more. -/
def hearEach (p : Player ρ π) (events : List Event) : Player ρ π :=
  events.foldl (fun q event => (q.hear event).lapse) p.lapse

/-- The player after events have been posted, each of them when no pull waits any more. -/
def postEach (p : Player ρ π) (events : List Event) : Player ρ π :=
  events.foldl (fun q event => (q.post event).2.expire) p.expire

variable {p : Player ρ π}

omit [MediaEngine ρ π] in
theorem mapLoop_of_running {held : Held π} {running : Running} (hh : p.held = some held)
    (hr : held.running = some running) (f : Loop ρ π → Loop ρ π) :
    p.mapLoop f = p.withLoop held (f (p.loop held running)) := by
  rw [mapLoop, hh]
  simp only [hr]

omit [MediaEngine ρ π] in
/-- Without a loop there is nothing to change. -/
theorem mapLoop_cases (p : Player ρ π) :
    (p.isStarted = false ∧ ∀ f : Loop ρ π → Loop ρ π, p.mapLoop f = p) ∨
      ∃ held running, p.held = some held ∧ held.running = some running := by
  cases hh : p.held with
  | none => exact .inl ⟨isStarted_of_held_none hh, fun f => by rw [mapLoop, hh]⟩
  | some held =>
      cases hr : held.running with
      | none =>
          refine .inl ⟨isStarted_of_unstarted hh hr, fun f => ?_⟩
          rw [mapLoop, hh]
          simp only [hr]
      | some running => exact .inr ⟨held, running, rfl, hr⟩

omit [MediaEngine ρ π] in
/-- A loop that has been put back changes where it is. -/
theorem mapLoop_withLoop {held : Held π} {l : Loop ρ π} (hp : l.patience = p.patience)
    (hq : l.quit = p.quit) (f : Loop ρ π → Loop ρ π) :
    (p.withLoop held l).mapLoop f = p.withLoop held (f l) := by
  have hl : (p.withLoop held l).loop (heldAt held l) _ = l := loop_withLoop hp hq
  rw [mapLoop_of_running (held_withLoop ..) rfl, hl]
  rfl

omit [MediaEngine ρ π] in
theorem mapLoop_mapLoop {f : Loop ρ π → Loop ρ π}
    (hf : ∀ l, (f l).patience = l.patience ∧ (f l).quit = l.quit) (g : Loop ρ π → Loop ρ π) :
    (p.mapLoop f).mapLoop g = p.mapLoop fun l => g (f l) := by
  rcases p.mapLoop_cases with ⟨-, hid⟩ | ⟨held, running, hh, hr⟩
  · rw [hid, hid, hid]
  · obtain ⟨hpatience, hquit⟩ := hf (p.loop held running)
    rw [mapLoop_of_running hh hr, mapLoop_of_running hh hr, mapLoop_withLoop hpatience hquit]

theorem settle_withLoop {held : Held π} {l : Loop ρ π} (hp : l.patience = p.patience)
    (hq : l.quit = p.quit) : (p.withLoop held l).settle = p.withLoop held l.settle :=
  mapLoop_withLoop hp hq Loop.settle

omit [MediaEngine ρ π] in
theorem loopEnded_of_running {held : Held π} {running : Running} (hh : p.held = some held)
    (hr : held.running = some running) : p.loopEnded = (running.phase == .ended) := by
  rw [loopEnded, hh, Option.any_some, hr, Option.any_some]

omit [MediaEngine ρ π] in
/-- What is raised for a started pipeline is raised for its loop. -/
theorem enqueue_of_started (h : p.isStarted = true) (events : List Event) :
    p.enqueue events = p.mapLoop (·.enqueue events) := by
  obtain ⟨held, running, hh, hr⟩ := exists_of_isStarted h
  rw [mapLoop_of_running hh hr, enqueue, loopEnded_of_running hh hr]
  by_cases off : running.phase = .ended
  · have off' : (p.loop held running).phase = .ended := off
    rw [Loop.enqueue_of_ended off', withLoop_loop hh hr, off]
    rfl
  · have off' : (p.loop held running).phase ≠ .ended := off
    rw [Loop.enqueue_of_on off', if_neg (by simpa using off), hh]
    obtain ⟨topology, pipeline, pending, running'⟩ := held
    cases hr
    rfl

omit [MediaEngine ρ π] in
theorem enqueue_of_running {held : Held π} {running : Running} (hh : p.held = some held)
    (hr : held.running = some running) (events : List Event) :
    p.enqueue events = p.withLoop held ((p.loop held running).enqueue events) := by
  rw [enqueue_of_started (isStarted_of_running hh hr), mapLoop_of_running hh hr]

omit [MediaEngine ρ π] in
theorem enqueue_withLoop {held : Held π} {l : Loop ρ π} (hp : l.patience = p.patience)
    (hq : l.quit = p.quit) (events : List Event) :
    (p.withLoop held l).enqueue events = p.withLoop held (l.enqueue events) := by
  rw [enqueue_of_started rfl, mapLoop_withLoop hp hq]

omit [MediaEngine ρ π] in
theorem isStarted_mapLoop (p : Player ρ π) (f : Loop ρ π → Loop ρ π) :
    (p.mapLoop f).isStarted = p.isStarted := by
  rcases p.mapLoop_cases with ⟨-, hid⟩ | ⟨held, running, hh, hr⟩
  · rw [hid]
  · rw [mapLoop_of_running hh hr, isStarted, isStarted, held_withLoop, hh]
    simp [heldAt, hr]

omit [MediaEngine ρ π] in
theorem mapLoop_of_not_started (h : p.isStarted = false) (f : Loop ρ π → Loop ρ π) :
    p.mapLoop f = p := by
  rcases p.mapLoop_cases with ⟨-, hid⟩ | ⟨held, running, hh, hr⟩
  · exact hid f
  · rw [isStarted_of_running hh hr] at h
    cases h

omit [MediaEngine ρ π] in
/-- Before the start events are only put behind the others. -/
theorem enqueue_of_not_started (h : p.isStarted = false) (events : List Event) :
    p.enqueue events =
      { p with
        held := p.held.map fun held => { held with pending := held.pending ++ events } } := by
  have on : ¬ p.loopEnded = true := by simp [loopEnded_of_not_started h]
  exact if_neg on

omit [MediaEngine ρ π] in
theorem enqueue_nil (p : Player ρ π) : p.enqueue [] = p := by
  cases hs : p.isStarted with
  | false => simp [enqueue_of_not_started hs]
  | true =>
      obtain ⟨held, running, hh, hr⟩ := exists_of_isStarted hs
      rw [enqueue_of_started hs, mapLoop_of_running hh hr, Loop.enqueue_nil, withLoop_loop hh hr]

omit [MediaEngine ρ π] in
theorem isStarted_enqueue (p : Player ρ π) (events : List Event) :
    (p.enqueue events).isStarted = p.isStarted := by
  cases hs : p.isStarted with
  | false =>
      rw [enqueue_of_not_started hs, ← hs, isStarted, isStarted, Option.any_map]
  | true => rw [enqueue_of_started hs, isStarted_mapLoop, hs]

omit [MediaEngine ρ π] in
theorem enqueue_append (p : Player ρ π) (events later : List Event) :
    p.enqueue (events ++ later) = (p.enqueue events).enqueue later := by
  have hs' := p.isStarted_enqueue events
  cases hs : p.isStarted with
  | false =>
      rw [enqueue_of_not_started (hs'.trans hs), enqueue_of_not_started hs,
        enqueue_of_not_started hs, Option.map_map]
      simp only [Function.comp_def, List.append_assoc]
  | true =>
      rw [enqueue_of_started (hs'.trans hs), enqueue_of_started hs, enqueue_of_started hs,
        mapLoop_mapLoop fun l => l.enqueue_frame events]
      exact congrArg p.mapLoop (funext fun l => l.enqueue_append events later)

/-- A player may heed what was raised before or after more is raised. -/
theorem heed_enqueue (p : Player ρ π) (events : List Event) :
    (p.enqueue events).heed = (p.heed.enqueue events).heed := by
  have hframe := fun l : Loop ρ π => l.enqueue_frame events
  cases hs : p.isStarted with
  | false =>
      -- without a loop nothing is heeded
      have hid : p.heed = p := mapLoop_of_not_started hs _
      rw [hid]
  | true =>
      have hs' : p.heed.isStarted = true := (isStarted_mapLoop p _).trans hs
      rw [enqueue_of_started hs, enqueue_of_started hs', heed, heed, heed, mapLoop_mapLoop hframe,
        mapLoop_mapLoop hframe, mapLoop_mapLoop Loop.heed_frame]
      exact congrArg p.mapLoop (funext fun l => l.heed_enqueue events)

theorem settle_heed (p : Player ρ π) : p.heed.settle = p.settle := by
  have hsettle : ∀ p : Player ρ π, p.settle = p.mapLoop Loop.settle := fun _ => rfl
  rw [hsettle, hsettle, heed, mapLoop_mapLoop Loop.heed_frame]
  exact congrArg p.mapLoop (funext Loop.settle_heed)

theorem lapse_heed (p : Player ρ π) : p.heed.lapse = p.lapse := by
  rw [lapse, lapse, heed, mapLoop_mapLoop Loop.heed_frame]
  exact congrArg p.mapLoop (funext Loop.lapse_heed)

theorem lapse_enqueue (p : Player ρ π) (events : List Event) :
    (p.lapse.enqueue events).lapse = (p.enqueue events).lapse := by
  have hframe := fun l : Loop ρ π => l.enqueue_frame events
  cases hs : p.isStarted with
  | false =>
      have hid : p.lapse = p := mapLoop_of_not_started hs _
      rw [hid]
  | true =>
      have hs' : p.lapse.isStarted = true := (isStarted_mapLoop p _).trans hs
      rw [enqueue_of_started hs, enqueue_of_started hs', lapse, lapse, lapse,
        mapLoop_mapLoop hframe, mapLoop_mapLoop hframe, mapLoop_mapLoop Loop.lapse_frame]
      exact congrArg p.mapLoop (funext fun l => l.lapse_enqueue events)

/-- Events that are raised together are heard one by one. -/
theorem hearAll_heed (p : Player ρ π) (events : List Event) :
    p.heed.hearAll events = (p.enqueue events).heed := by
  induction events generalizing p with
  | nil =>
      rw [enqueue_nil]
      rfl
  | cons event rest ih =>
      have hfirst : p.heed.hear event = (p.enqueue [event]).heed := (p.heed_enqueue [event]).symm
      calc
        (p.heed.hear event).hearAll rest = (p.enqueue [event]).heed.hearAll rest := by rw [hfirst]
        _ = ((p.enqueue [event]).enqueue rest).heed := ih _
        _ = (p.enqueue (event :: rest)).heed := by rw [← enqueue_append, List.singleton_append]

/-- It is the same whether a wait is over after each event or after all of them. -/
theorem lapse_hearAll (p : Player ρ π) (events : List Event) :
    (p.heed.hearAll events).lapse = p.hearEach events := by
  rw [hearAll_heed, lapse_heed, hearEach]
  induction events generalizing p with
  | nil => rw [enqueue_nil]; rfl
  | cons event rest ih =>
      have hfirst : (p.lapse.hear event).lapse = (p.enqueue [event]).lapse := by
        rw [hear, lapse_heed, lapse_enqueue]
      rw [List.foldl_cons, hfirst, ← ih, ← enqueue_append, List.singleton_append]

/-! ### Events that are posted -/

omit [MediaEngine ρ π] in
/-- What leaves every loop that has ended as it is leaves the player as it is. -/
theorem mapLoop_of_loopEnded (h : p.loopEnded = true) {f : Loop ρ π → Loop ρ π}
    (hf : ∀ {l : Loop ρ π}, l.phase = .ended → f l = l) : p.mapLoop f = p := by
  obtain ⟨held, running, hh, hr, off⟩ := exists_of_loopEnded h
  have off' : (p.loop held running).phase = .ended := off
  rw [mapLoop_of_running hh hr, hf off', withLoop_loop hh hr]

theorem settle_of_loopEnded (h : p.loopEnded = true) : p.settle = p :=
  mapLoop_of_loopEnded h Loop.settle_of_ended

theorem heed_of_loopEnded (h : p.loopEnded = true) : p.heed = p :=
  mapLoop_of_loopEnded h Loop.heed_of_ended

omit [MediaEngine ρ π] in
theorem enqueue_of_loopEnded (h : p.loopEnded = true) (events : List Event) :
    p.enqueue events = p :=
  if_pos h

/-- A loop that has ended hears nothing any more. -/
theorem hearAll_of_loopEnded (h : p.loopEnded = true) (events : List Event) :
    p.hearAll events = p := by
  induction events with
  | nil => rfl
  | cons event rest ih =>
      have hfirst : p.hear event = p := by
        rw [hear, enqueue_of_loopEnded h, heed_of_loopEnded h]
      calc
        p.hearAll (event :: rest) = p.hearAll rest := congrArg (hearAll · rest) hfirst
        _ = p := ih

/-- Nothing that comes behind an event that ends the loop is heard. -/
theorem settle_hearAll_of_loopEnded {earlier : List Event}
    (h : (p.hearAll earlier).loopEnded = true) (later : List Event) :
    (p.hearAll (earlier ++ later)).settle = p.hearAll earlier := by
  have happend : p.hearAll (earlier ++ later) = (p.hearAll earlier).hearAll later :=
    List.foldl_append
  rw [happend, hearAll_of_loopEnded h, settle_of_loopEnded h]

/-- A posted event is raised, and the loop runs to rest. -/
theorem post_eq (p : Player ρ π) (event : Event) :
    (p.post event).2 = (p.enqueue [event]).settle := by
  rw [post.eq_def, enqueue]
  cases hh : p.held with
  | none =>
      have hnone : ({ p with held := none } : Player ρ π) = p := by rw [← hh]
      rw [if_neg (by simp [loopEnded_of_held_none hh]), Option.map_none, hnone,
        settle_of_held_none hh]
  | some held =>
      cases hended : p.loopEnded with
      | true => exact (settle_of_loopEnded hended).symm
      | false => simp

/-- Before the start an event is only put behind the others. -/
theorem post_of_not_started (h : p.isStarted = false) (event : Event) :
    (p.post event).2 = p.enqueue [event] := by
  have h' : (p.enqueue [event]).isStarted = false := (p.isStarted_enqueue [event]).trans h
  rw [post_eq]
  exact mapLoop_of_not_started h' _

theorem postAll_of_not_started (h : p.isStarted = false) (events : List Event) :
    p.postAll events = p.enqueue events := by
  induction events generalizing p with
  | nil => exact p.enqueue_nil.symm
  | cons event rest ih =>
      have h' : (p.enqueue [event]).isStarted = false := (p.isStarted_enqueue [event]).trans h
      calc
        p.postAll (event :: rest) = (p.enqueue [event]).postAll rest :=
          congrArg (postAll · rest) (post_of_not_started h event)
        _ = (p.enqueue [event]).enqueue rest := ih h'
        _ = p.enqueue (event :: rest) := by rw [← enqueue_append, List.singleton_append]

theorem CaughtUp.postAll (h : p.CaughtUp) (events : List Event) : (p.postAll events).CaughtUp := by
  induction events generalizing p with
  | nil => exact h
  | cons event rest ih => exact ih (h.post event)

theorem postAll_untaped (p : Player (Tape ρ) (Taped π)) (events : List Event) :
    p.untaped.postAll events = (p.postAll events).untaped := by
  induction events generalizing p with
  | nil => rfl
  | cons event rest ih =>
      have hfirst : (p.untaped.post event).2 = (p.post event).2.untaped :=
        congrArg Prod.snd (post_untaped p event)
      exact (congrArg (postAll · rest) hfirst).trans (ih _)

/-- A loop that runs to rest calls the pipeline at hand alone. -/
theorem log_settle {p : Player (Tape ρ) (Taped π)} {held : Held (Taped π)} {running : Running}
    (hh : p.held = some held) (hr : held.running = some running) :
    ∃ rest, p.settle.engine.log = p.engine.log ++ Log.entries held.pipeline.number rest := by
  obtain ⟨rest, ht⟩ := (Loop.settle_steps (p.loop held running)).told
  rw [settle_of_running hh hr]
  exact ⟨rest, ht.2⟩

/-! ### Engines that raise no demand -/

theorem settle_of_unprompted (h : Unprompted ρ) (p : Player ρ π) : p.settle = p.heed :=
  congrArg p.mapLoop (funext h.settle_eq)

theorem post_of_unprompted (h : Unprompted ρ) (p : Player ρ π) (event : Event) :
    (p.post event).2 = p.hear event := by
  rw [post_eq, settle_of_unprompted h]
  rfl

theorem postAll_of_unprompted (h : Unprompted ρ) (p : Player ρ π) (events : List Event) :
    p.postAll events = p.hearAll events := by
  induction events generalizing p with
  | nil => rfl
  | cons event rest ih =>
      have hfirst := post_of_unprompted h p event
      calc
        p.postAll (event :: rest) = (p.hear event).postAll rest := congrArg (postAll · rest) hfirst
        _ = (p.hear event).hearAll rest := ih _

/-- What is heard one by one may as well be posted. -/
theorem settle_hearAll_of_unprompted (h : Unprompted ρ) (p : Player ρ π) (events : List Event) :
    (p.heed.hearAll events).settle = p.settle.postAll events := by
  rw [hearAll_heed, settle_heed, settle_of_unprompted h, settle_of_unprompted h,
    postAll_of_unprompted h, hearAll_heed]

omit [MediaEngine ρ π] in
theorem waits_of_not_started (h : p.isStarted = false) : p.waits = false := by
  cases hw : p.waits with
  | false => rfl
  | true =>
      obtain ⟨held, hh, hwaits⟩ := (Option.any_eq_true _ _).1 hw
      obtain ⟨running, hr, -⟩ := (Option.any_eq_true _ _).1 hwaits
      rw [isStarted_of_running hh hr] at h
      cases h

/-- At rest the end of a wait is all that an expiry is. -/
theorem CaughtUp.expire_eq (hc : p.CaughtUp) (h : Unprompted ρ) : p.expire = p.lapse := by
  rcases p.mapLoop_cases with ⟨hs, hid⟩ | ⟨held, running, hh, hr⟩
  · have hw : p.waits = false := waits_of_not_started hs
    have hlapse : p.lapse = p := hid _
    rw [hlapse, Player.expire, hw, if_neg Bool.false_ne_true]
  · have hw : p.waits = (running.phase == .pulling) := by simp [waits, hh, hr]
    have hlapse : p.lapse = p.withLoop held (p.loop held running).lapse :=
      mapLoop_of_running hh hr _
    by_cases on : running.phase = .pulling
    · have hexpire : ({ p with patience := .brief } : Player ρ π).settle = _ :=
        settle_of_running hh hr
      rw [hlapse, Player.expire, if_pos (by simp [hw, on]), hexpire, h.settle_eq]
      rfl
    · have hl : (p.loop held running).lapse = p.loop held running :=
        (hc held running hh hr).lapse_eq on
      rw [hlapse, hl, withLoop_loop hh hr, Player.expire, hw, if_neg (by simpa using on)]

theorem CaughtUp.postEach_eq (hc : p.CaughtUp) (h : Unprompted ρ) (events : List Event) :
    p.postEach events = p.hearEach events := by
  -- the player is at rest after every expiry, so that each of them is a lapse
  rw [postEach, hearEach, ← hc.expire_eq h]
  have hc' := hc.expire
  generalize p.expire = q at hc'
  induction events generalizing q with
  | nil => rfl
  | cons event rest ih =>
      have hfirst : (q.post event).2.CaughtUp := hc'.post event
      rw [List.foldl_cons, List.foldl_cons, ← post_of_unprompted h, ← hfirst.expire_eq h]
      exact ih _ hfirst.expire

end Player

end StandbyStream
