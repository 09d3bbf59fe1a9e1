import StandbyStream.Proofs.Player.Rest
import StandbyStream.Proofs.Player.Stop
import StandbyStream.Proofs.Player.Threads

/-!
# Loops that run to rest as schedules

`Loop.settle` runs a loop to rest in one go. Its thread gets there action by action: whatever the
loop of a player comes to, the threads can come to as well if the loop and the demands of its
pipeline are all that acts (`Threads.reaches_settle`, and `Threads.reaches_settle_of_quit` for a
loop that is told to quit).
-/

namespace StandbyStream

open Relation (ReflTransGen)

variable {ρ π : Type} [MediaEngine ρ π]

/-- What a loop does next that is read in this phase. -/
def LoopPoint.ofPhase : Phase → LoopPoint
  | .listening => .receive
  | .pulling => .pop
  | .ended => .ended

namespace Threads

/-- The loop acts, or the pipeline raises a demand. -/
def Own (s s' : Threads ρ π) : Prop :=
  ∃ a, Step s a s' ∧ (a.ofLoop = true ∨ a = .demand)

/-- Any number of such actions. -/
abbrev Works : Threads ρ π → Threads ρ π → Prop :=
  ReflTransGen Own

/-- The threads are where the loop is, except that the loop may be in the middle of something. What
has not been received when the loop ends is lost. -/
structure Shows (s : Threads ρ π) (l : Loop ρ π) (point : LoopPoint) (pending : List Event) :
    Prop where
  deck : s.deck = l.deck
  state : s.state = l.state
  feed : s.feed = l.feed
  quit : s.quit = l.quit
  loop : s.loop = point
  pending : point ≠ .ended → s.pending = pending

variable {s s' : Threads ρ π} {l : Loop ρ π} {pending : List Event} {a : Act}

theorem works_loop {point : LoopPoint} (h : Step s (.loop point) s') : Works s s' :=
  ReflTransGen.single ⟨_, h, .inl rfl⟩

theorem works_expire (h : Step s .expire s') : Works s s' :=
  ReflTransGen.single ⟨_, h, .inl rfl⟩

theorem Works.loop {t : Threads ρ π} {point : LoopPoint} (hworks : Works s t)
    (h : Step t (.loop point) s') : Works s s' :=
  hworks.trans (works_loop h)

/-- The threads can come by themselves to where the loop is. -/
def Reaches (s : Threads ρ π) (l : Loop ρ π) (pending : List Event) : Prop :=
  ∃ s', Works s s' ∧ Shows s' l (.ofPhase l.phase) pending

theorem Reaches.after (h : Reaches s' l pending) (hworks : Works s s') : Reaches s l pending := by
  obtain ⟨t, ht, hshows⟩ := h
  exact ⟨t, hworks.trans ht, hshows⟩

/-- What a loop that has ended does not receive does not matter. -/
theorem Reaches.dropped (h : Reaches s l pending) (off : l.phase = .ended)
    (pending' : List Event) : Reaches s l pending' := by
  obtain ⟨s', hworks, hshows⟩ := h
  refine ⟨s', hworks, { hshows with pending := fun hn => absurd ?_ hn }⟩
  rw [off]
  rfl

theorem exists_run_of_works (h : Works s s') : ∃ acts, s.run acts = some s' := by
  induction h with
  | refl => exact ⟨[], run_nil s⟩
  | tail _ hstep ih =>
    obtain ⟨acts, hrun⟩ := ih
    obtain ⟨a, hstep, -⟩ := hstep
    exact ⟨acts ++ [a], run_append hrun (run_single hstep)⟩

theorem stop_of_works (h : Works s s') : s'.stop = s.stop ∧ s'.hasLive = s.hasLive := by
  induction h with
  | refl => exact ⟨rfl, rfl⟩
  | tail _ hstep ih =>
    obtain ⟨a, hstep, ha⟩ := hstep
    obtain ⟨hstop, hlive⟩ := ih
    refine ⟨?_, (hasLive_step hstep).trans hlive⟩
    rcases ha with ha | rfl
    · exact (stop_of_ofLoop hstep ha).trans hstop
    · cases hstep
      exact hstop

/-! ## The beginning and the end of a loop -/

/-- A loop that begins plays, unless the pipeline cannot. -/
theorem reaches_begin (h : Shows s l .play l.pending) (hquit : l.quit = false) :
    Reaches s l.begin l.begin.pending := by
  rw [Loop.begin.eq_def, ← h.deck]
  rcases hplay : MediaEngine.play s.deck.rig with ⟨fault | _, rig⟩
  · have hmark := (works_loop (.refuseToPlay h.loop hplay)).loop (.failToPlay rfl)
    refine ⟨_, hmark.loop (.leave rfl), rfl, ?_, h.feed, h.quit, rfl, fun hn => (hn rfl).elim⟩
    simp [Loop.failToPlay, h.state]
  · have henter := ((works_loop (.play h.loop hplay)).loop (.raiseFlag rfl)).loop (.enter rfl)
    refine ⟨_, henter.loop (.askQuit rfl), rfl, ?_, h.feed, h.quit, ?_, fun _ => h.pending (by simp)⟩
    · simp [h.state]
    · simp [h.quit, hquit, LoopPoint.ofPhase]

theorem reaches_finish (h : Shows s l .lowerFlag pending) : Reaches s (l.finish false) pending := by
  have hleave := (works_loop (.lowerFlag h.loop)).loop (.leave rfl)
  refine ⟨_, hleave, ?_, ?_, h.feed, h.quit, rfl, fun hn => (hn rfl).elim⟩
  · simp [Loop.finish, h.deck]
  · simp [Loop.finish, h.state]

theorem reaches_fail (h : Shows s l .markError pending) : Reaches s (l.finish true) pending := by
  have hmark := works_loop (.markError h.loop)
  have hshows : Shows { s with deck.status.errorDetected := true, loop := .lowerFlag }
      { l with deck.status.errorDetected := true } .lowerFlag pending :=
    ⟨by rw [h.deck], h.state, h.feed, h.quit, rfl, fun _ => h.pending (by simp)⟩
  have heq : Loop.finish false { l with deck.status.errorDetected := true } = l.finish true := by
    simp [Loop.finish]
  rw [← heq]
  exact (reaches_finish hshows).after hmark

/-- A loop that is asked whether to quit ends if it is told to. -/
theorem reaches_askQuit_of_quit (h : Shows s l .askQuit pending) (hquit : l.quit = true) :
    Reaches s (l.finish false) pending := by
  refine (reaches_finish ?_).after (works_loop (.askQuit h.loop))
  refine ⟨h.deck, h.state, h.feed, h.quit, ?_, fun _ => h.pending (by simp)⟩
  rw [h.quit, hquit]
  rfl

/-- Otherwise it goes on to listen. -/
theorem reaches_askQuit (h : Shows s l .askQuit pending) (hquit : l.quit = false) :
    Reaches s { l with phase := .listening } pending := by
  refine ⟨_, works_loop (.askQuit h.loop), h.deck, h.state, h.feed, h.quit, ?_,
    fun _ => h.pending (by simp)⟩
  rw [h.quit, hquit]
  rfl

/-! ## Single events -/

/-- A pull that finds the queue closed. -/
theorem reaches_pull_of_closed (h : Shows s l .pop pending) (hclosed : l.deck.queue.closed = true) :
    Reaches s (l.finish false) pending := by
  have hpop := FrameQueue.pop_of_closed hclosed
  rw [← h.deck] at hpop
  refine (reaches_finish ?_).after (works_loop (.popClosed h.loop hpop))
  exact ⟨h.deck, h.state, h.feed, h.quit, rfl, fun _ => h.pending (by simp)⟩

/-- A pull that has found no frame in time. -/
theorem reaches_failOver (h : Shows s l .failOver pending) (hquit : l.quit = false)
    (live : ¬ l.feed.Idle) (hopen : l.deck.queue.closed = false)
    (hframes : l.deck.queue.frames = []) (hp : l.patience = .brief) : Reaches s l.pull pending := by
  have hpending := h.pending (by simp)
  rw [Loop.pull_of_late live hopen hframes hp, ← h.deck]
  rcases hselect : MediaEngine.select .fallback s.deck.rig with ⟨fault | _, rig⟩
  · refine (reaches_fail ?_).after (works_loop (.refuseToFailOver h.loop hselect))
    exact ⟨rfl, h.state, h.feed, h.quit, rfl, fun _ => hpending⟩
  · have hswitch := (works_loop (.failOver h.loop hselect)).loop (.markFallback rfl)
    rw [← h.feed]
    refine Reaches.after (reaches_askQuit (l := { l with
      feed := { s.feed with input := .fallback }
      deck := { s.deck with rig, status := { s.deck.status with onFallback := true } } })
      ?_ hquit) hswitch
    exact ⟨rfl, h.state, rfl, h.quit, rfl, fun _ => hpending⟩

/-- A pull that has taken a frame. -/
theorem reaches_push {frame : Frame} {rest : List Frame}
    (h : Shows s { l with deck.queue.frames := rest } (.push frame) pending)
    (hquit : l.quit = false) (live : ¬ l.feed.Idle) (hopen : l.deck.queue.closed = false)
    (hframes : l.deck.queue.frames = frame :: rest) : Reaches s l.pull pending := by
  have hpending := h.pending (by simp)
  have hrig : s.deck.rig = l.deck.rig := by rw [h.deck]
  have hfeed : s.feed = l.feed := h.feed
  rw [Loop.pull_of_frame live hopen hframes, ← hrig, ← hfeed]
  rcases hpush : MediaEngine.push (s.feed.stamp frame) s.deck.rig with ⟨fault | _, rig⟩
  · refine (reaches_fail ?_).after (works_loop (.refuse h.loop hpush))
    exact ⟨by rw [h.deck], h.state, rfl, h.quit, rfl, fun _ => hpending⟩
  · refine Reaches.after (reaches_askQuit (l := { l with
      feed := { s.feed.timedFrom frame with delivered := s.feed.delivered + 1 }
      deck := { l.deck with queue := { l.deck.queue with frames := rest }, rig } })
      ?_ hquit) (works_loop (.deliver h.loop hpush))
    exact ⟨by rw [h.deck], h.state, rfl, h.quit, rfl, fun _ => hpending⟩

/-- A pull that looks into the queue. -/
theorem reaches_pull (h : Shows s l .pop pending) (hquit : l.quit = false)
    (live : ¬ l.feed.Idle) : Reaches s l.pull pending := by
  have hpending := h.pending (by simp)
  cases hopen : l.deck.queue.closed with
  | true =>
    rw [Loop.pull_of_closed live hopen]
    exact reaches_pull_of_closed h hopen
  | false =>
    cases hframes : l.deck.queue.frames with
    | nil =>
      cases hp : l.patience with
      | lasting =>
        rw [Loop.pull_of_patient live hopen hframes hp]
        exact ⟨s, .refl, h.deck, h.state, h.feed, h.quit, h.loop, fun _ => hpending⟩
      | brief =>
        -- the wait is over at once
        have hpop := FrameQueue.pop_of_empty hopen hframes
        rw [← h.deck] at hpop
        refine Reaches.after ?_ (works_expire (.findNothing h.loop hpop))
        refine reaches_failOver ?_ hquit live hopen hframes hp
        exact ⟨h.deck, h.state, h.feed, h.quit, rfl, fun _ => hpending⟩
    | cons frame rest =>
      have hpop := FrameQueue.pop_of_cons hopen hframes
      rw [← h.deck] at hpop
      refine Reaches.after ?_ (works_loop (.popFrame h.loop hpop))
      refine reaches_push ?_ hquit live hopen hframes
      exact ⟨by rw [h.deck], h.state, h.feed, h.quit, rfl, fun _ => hpending⟩

theorem afterEvent_of_idle {feed : Feed} (h : feed.Idle) : afterEvent feed .needData = .askQuit :=
  if_pos h

theorem afterEvent_of_live {feed : Feed} (h : ¬ feed.Idle) : afterEvent feed .needData = .pop :=
  if_neg h

theorem works_receive {event : Event} (h : Shows s l .receive (event :: pending)) :
    ∃ s', Works s s' ∧ Shows s' l (afterEvent l.feed event) pending := by
  refine ⟨_, works_loop (.receive h.loop (h.pending (by simp))), ?_⟩
  exact ⟨h.deck, h.state, h.feed, h.quit, by rw [h.feed], fun _ => rfl⟩

/-- An event is taken off the list and handled. -/
theorem reaches_handle {event : Event} (h : Shows s l .receive (event :: pending))
    (on : l.phase = .listening) (hquit : l.quit = false) :
    Reaches s (l.handle event) pending := by
  obtain ⟨s', hworks, hshows⟩ := works_receive h
  refine Reaches.after ?_ hworks
  -- after an event that does not end the loop it listens again
  have hlisten (h : Shows s' l .askQuit pending) : Reaches s' l pending := by
    have hl := reaches_askQuit h hquit
    rwa [← on] at hl
  cases event with
  | needData =>
    change Reaches s' l.pull pending
    by_cases idle : l.feed.Idle
    · rw [afterEvent_of_idle idle] at hshows
      rw [Loop.pull_of_idle idle, ← on]
      exact hlisten hshows
    · rw [afterEvent_of_live idle] at hshows
      exact reaches_pull hshows hquit idle
  | endOfStream => exact reaches_finish hshows
  | warning source message => exact hlisten hshows
  | error source message => exact reaches_fail hshows
  | wake => exact hlisten hshows

/-- The first event that a loop receives that is told to quit is the last one. -/
theorem reaches_finish_of_quit {event : Event} (h : Shows s l .receive (event :: pending))
    (hquit : l.quit = true) (hclosed : l.deck.queue.closed = true) :
    Reaches s (l.finish event.isError) pending := by
  obtain ⟨s', hworks, hshows⟩ := works_receive h
  refine Reaches.after ?_ hworks
  cases event with
  | needData =>
    by_cases idle : l.feed.Idle
    · rw [afterEvent_of_idle idle] at hshows
      exact reaches_askQuit_of_quit hshows hquit
    · rw [afterEvent_of_live idle] at hshows
      exact reaches_pull_of_closed hshows hclosed
  | endOfStream => exact reaches_finish hshows
  | warning source message => exact reaches_askQuit_of_quit hshows hquit
  | error source message => exact reaches_fail hshows
  | wake => exact reaches_askQuit_of_quit hshows hquit

/-! ## Loops that run to rest -/

/-- A pull that does not end the loop drops nothing. -/
theorem pending_pull_of_on (on : l.pull.phase ≠ .ended) : l.pull.pending = l.pending := by
  revert on
  rw [Loop.pull.eq_def]
  rcases l.feed.pull l.patience l.deck with ⟨outcome, feed, deck⟩
  intro on
  cases outcome with
  | fatal fault => exact (on rfl).elim
  | closed => exact (on rfl).elim
  | _ => rfl

theorem reaches_handleAll {events : List Event} (h : Shows s l .receive events)
    (on : l.phase = .listening) (hquit : l.quit = false) :
    Reaches s (l.handleAll events) (l.handleAll events).pending := by
  induction events generalizing s l with
  | nil =>
    rw [Loop.handleAll]
    refine ⟨s, .refl, h.deck, h.state, h.feed, h.quit, ?_, fun _ => h.pending (by simp)⟩
    rw [h.loop, on]
    rfl
  | cons event rest ih =>
    have hquit' : (l.handle event).quit = false :=
      (Loop.handle_steps l on event).frame.2.1.trans hquit
    have hhandle : Reaches s (l.handle event) rest := reaches_handle h on hquit
    rw [Loop.handleAll]
    -- the rest is received only if the loop still listens
    split
    · next hphase =>
      obtain ⟨s', hworks, hshows⟩ := hhandle
      rw [hphase] at hshows
      rw [hquit', if_neg Bool.false_ne_true]
      exact (ih hshows hphase hquit').after hworks
    · obtain ⟨s', hworks, hshows⟩ := hhandle
      exact ⟨s', hworks, hshows.deck, hshows.state, hshows.feed, hshows.quit, hshows.loop,
        hshows.pending⟩
    · next hphase => exact hhandle.dropped hphase _

theorem reaches_serveDemand (count : Nat) (h : Shows s l (.ofPhase l.phase) l.pending)
    (hpending : l.phase = .listening → l.pending = []) (hquit : l.quit = false) :
    Reaches s (l.serveDemand count) (l.serveDemand count).pending := by
  induction count generalizing s l with
  | zero => exact ⟨s, .refl, h⟩
  | succ count ih =>
    rw [Loop.serveDemand.eq_def]
    simp only
    split
    · next rig on hraise =>
      -- the demand is raised, and received at once
      let raised : Loop ρ π := { l with deck := { l.deck with rig } }
      rw [← h.deck] at hraise
      have hdemand : Works s _ := ReflTransGen.single ⟨_, .demand hraise, .inr rfl⟩
      have hshows : Shows { s with deck.rig := rig, pending := s.pending ++ [.needData] } raised
          .receive [.needData] := by
        refine ⟨by rw [h.deck], h.state, h.feed, h.quit, by rw [h.loop, on]; rfl, fun _ => ?_⟩
        rw [h.pending (by simp [on, LoopPoint.ofPhase]), hpending on, List.nil_append]
      obtain ⟨s', hworks, hpulled⟩ := reaches_handle hshows on hquit
      have hnil : raised.pull.pending = [] := Loop.pending_pull (hpending on)
      have hquit' : raised.pull.quit = false :=
        (Loop.pull_step raised (by simp [raised, on])).frame.2.1.trans hquit
      rw [← hnil] at hpulled
      exact (ih hpulled (fun _ => hnil) hquit').after (hdemand.trans hworks)
    · exact ⟨s, .refl, h⟩

theorem reaches_resume (h : Shows s l (.ofPhase l.phase) l.pending) (hquit : l.quit = false)
    (live : l.phase = .pulling → ¬ l.feed.Idle) : Reaches s l.resume l.resume.pending := by
  rw [Loop.resume.eq_def]
  split
  · next on =>
    rw [on] at h
    have hpull : Reaches s l.pull l.pending := reaches_pull h hquit (live on)
    have hframe := (Loop.pull_step l (by simp [on])).frame
    simp only [hframe.2.1, hquit, Bool.false_eq_true, and_false, if_false]
    by_cases off : l.pull.phase = .ended
    · exact hpull.dropped off _
    · rwa [pending_pull_of_on off]
  · exact ⟨s, .refl, h⟩

/-- Where a loop comes to rest, its threads can come by themselves. -/
theorem reaches_settle (h : Shows s l (.ofPhase l.phase) l.pending) (hquit : l.quit = false)
    (live : l.phase = .pulling → ¬ l.feed.Idle) : Reaches s l.settle l.settle.pending := by
  -- first the pull that waits, then what has been raised, then the demands of the pipeline
  obtain ⟨s₁, hresume, h₁⟩ := reaches_resume h hquit live
  have hquit₁ : l.resume.quit = false := (Loop.resume_steps l).frame.2.1.trans hquit
  rw [Loop.settle.eq_def]
  simp only
  split
  · next on =>
    rw [on] at h₁
    obtain ⟨s₂, hhandle, h₂⟩ := reaches_handleAll h₁ on hquit₁
    have hquit₂ := (Loop.handleAll_steps l.resume.pending _ on).frame.2.1.trans hquit₁
    have hpending := Loop.pending_handleAll l.resume.pending l.resume
    exact (reaches_serveDemand _ h₂ hpending hquit₂).after (hresume.trans hhandle)
  · next off =>
    exact (reaches_serveDemand _ h₁ (fun on => absurd on off) hquit₁).after hresume

/-- The same of a loop that is told to quit while there is something that it can receive. -/
theorem reaches_settle_of_quit (h : Shows s l (.ofPhase l.phase) l.pending) (hquit : l.quit = true)
    (hclosed : l.deck.queue.closed = true) (hpending : l.pending ≠ []) :
    Reaches s l.settle l.settle.pending := by
  rw [Loop.settle_of_quit hquit hclosed hpending]
  cases on : l.phase with
  | ended => exact ⟨s, .refl, h⟩
  | pulling =>
    rw [on] at h
    exact (reaches_pull_of_closed h hclosed).dropped rfl _
  | listening =>
    rw [on] at h
    obtain ⟨event, rest, hcons⟩ := List.exists_cons_of_ne_nil hpending
    rw [hcons] at h ⊢
    exact (reaches_finish_of_quit h hquit hclosed).dropped rfl _

end Threads

end StandbyStream
