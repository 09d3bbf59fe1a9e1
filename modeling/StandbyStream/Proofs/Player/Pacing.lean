import StandbyStream.Engine.Simulator
import StandbyStream.Proofs.Player.Teardown

/-!
# One demand at a time

A live pipeline of the simulator raises a demand, marks it, and takes the mark back with the buffer
that answers it; the demand itself goes through the events to the loop. So the mark, the events and
the point where the loop stands tell the same thing in three ways. What an action does to all of
them is said once, by `Threads.Beat`, and the agreement holds along every schedule
(`Threads.Paced.step`), also if pushes begin and cease to be refused in between (`Happening`): no
demand is raised before the last one is answered, and none is lost as long as the loop goes on with
the live input on air (`Threads.demand_of_history`).
-/

namespace StandbyStream

open Act

/-! ## The mark of a demand -/

namespace Simulator

/-- What the simulator keeps of the demands of a pipeline and of the buffers that answer them. -/
structure Pace where
  connected : Bool
  pending : Bool
  active : Option Input
  requests : Nat
  live : Nat
  deriving DecidableEq, Repr

/-- The demands and the answers of a pipeline. -/
def pace (rig : Rig Simulator SimPipeline) : Pace :=
  ⟨rig.pipeline.demandConnected, rig.pipeline.demandPending, rig.engine.active,
    rig.engine.demandRequests, rig.engine.live.length⟩

variable {rig rig' : Rig Simulator SimPipeline}

theorem pace_play {answer : Except Plain Unit} (h : play rig = (answer, rig')) :
    pace rig' = pace rig := by
  rw [play] at h
  repeat' split at h
  all_goals
    cases h
    rfl

theorem pace_endOfStream (rig : Rig Simulator SimPipeline) :
    pace (endOfStream rig).2.2 = pace rig ∧ .needData ∉ (endOfStream rig).2.1 := by
  rw [endOfStream]
  repeat' split
  all_goals exact ⟨rfl, by simp⟩

/-- A buffer that is taken answers the demand. -/
theorem pace_push_ok {buffer : Buffer} (h : push buffer rig = (.ok (), rig')) :
    pace rig' = { pace rig with pending := false, live := (pace rig).live + 1 } := by
  rw [push] at h
  repeat' split at h
  all_goals cases h
  simp [pace]

theorem pace_push_error {buffer : Buffer} {fault : FlowError}
    (h : push buffer rig = (.error fault, rig')) : pace rig' = pace rig := by
  rw [push] at h
  repeat' split at h
  all_goals
    cases h
    try rfl

/-- The fallback is always there to be put on air. -/
theorem pace_select {answer : Except Plain Unit} (h : select .fallback rig = (answer, rig')) :
    answer = .ok () ∧ pace rig' = { pace rig with active := some .fallback } := by
  simp only [select, reduceCtorEq, false_and, if_false] at h
  cases h
  exact ⟨rfl, rfl⟩

/-- A demand is raised with the live input on air, as long as none is unanswered. -/
theorem pace_raiseDemand (h : raiseDemand? rig = some rig') :
    (pace rig).connected = true ∧ (pace rig).pending = false ∧ (pace rig).active = some .live ∧
      pace rig' = { pace rig with pending := true, requests := (pace rig).requests + 1 } := by
  rw [raiseDemand?] at h
  split at h <;> cases h
  next hdue =>
  simp only [demandDue, Bool.and_eq_true, beq_iff_eq, Bool.not_eq_true'] at hdue
  obtain ⟨⟨⟨-, hactive⟩, hconnected⟩, hpending⟩ := hdue
  exact ⟨hconnected, hpending, hactive, rfl⟩

end Simulator

open Simulator

/-! ## Demands under way -/

namespace LoopPoint

/-- The loop is handling a demand. -/
def serves : LoopPoint → Bool
  | .pop => true
  | .push _ => true
  | .failOver => true
  | .markFallback => true
  | _ => false

/-- The loop has nothing to do but to end, or has ended. -/
def leaves : LoopPoint → Bool
  | .failToPlay => true
  | .markError => true
  | .lowerFlag => true
  | .leave => true
  | .ended => true
  | _ => false

end LoopPoint

namespace Threads

/-- How many demands are on their way to the loop or are being handled by it. -/
def underWay {ρ π : Type} (s : Threads ρ π) : Nat :=
  s.pending.count .needData + s.loop.serves.toNat

variable {s s' : Threads Simulator SimPipeline} {a : Act} {acts : List Act}

/-- What an action does to the demands. -/
inductive Beat (s : Threads Simulator SimPipeline) : Act → Threads Simulator SimPipeline → Prop
  /-- A demand is raised. -/
  | raised {s' : Threads Simulator SimPipeline} (connected : (pace s.deck.rig).connected = true)
      (answered : (pace s.deck.rig).pending = false)
      (onAir : (pace s.deck.rig).active = some .live)
      (hpace : pace s'.deck.rig =
        { pace s.deck.rig with pending := true, requests := (pace s.deck.rig).requests + 1 })
      (hfeed : s'.feed = s.feed) (hloop : s'.loop = s.loop)
      (hunder : s'.underWay = s.underWay + 1) : Beat s .demand s'
  /-- The buffer that answers a demand is taken. -/
  | answered {frame : Frame} {s' : Threads Simulator SimPipeline}
      (hpace : pace s'.deck.rig =
        { pace s.deck.rig with pending := false, live := (pace s.deck.rig).live + 1 })
      (hfeed : s'.feed = { s.feed.timedFrom frame with delivered := s.feed.delivered + 1 })
      (hloop : s'.loop = .askQuit) (hunder : s'.underWay + 1 = s.underWay) :
      Beat s (.loop (.push frame)) s'
  /-- The fallback is put on air. -/
  | switched {s' : Threads Simulator SimPipeline}
      (hpace : pace s'.deck.rig = { pace s.deck.rig with active := some .fallback })
      (hfeed : s'.feed = { s.feed with input := .fallback }) (hloop : s'.loop = .markFallback)
      (hunder : s'.underWay = s.underWay) : Beat s (.loop .failOver) s'
  /-- No demand is raised any more. -/
  | cut {s' : Threads Simulator SimPipeline}
      (hpace : pace s'.deck.rig = { pace s.deck.rig with connected := false })
      (hfeed : s'.feed = s.feed) (hloop : s'.loop = s.loop) (hunder : s'.underWay = s.underWay) :
      Beat s (.stop .disconnect) s'
  /-- Anything else leaves the demand and its mark alone. It is dropped by a loop that is about to
  end, that has no live input to feed, or that has put the fallback on air. -/
  | other {a : Act} {s' : Threads Simulator SimPipeline} (hdemand : a ≠ .demand)
      (hcut : a ≠ .stop .disconnect) (hswitch : a ≠ .loop .failOver)
      (hpace : pace s'.deck.rig = pace s.deck.rig) (hmode : s'.feed.mode = s.feed.mode)
      (hinput : s'.feed.input = s.feed.input) (hdelivered : s'.feed.delivered = s.feed.delivered)
      (hmark : s'.loop = .markFallback → s.loop = .markFallback)
      (hleaves : s.loop.leaves = true → s'.loop.leaves = true)
      (hunder : s'.underWay = s.underWay ∨ s'.underWay ≤ s.underWay ∧
        (s'.loop.leaves = true ∨ s.loop = .markFallback ∨ s.feed.Idle)) :
      Beat s a s'

theorem count_concat_of_ne {events : List Event} {event : Event} (h : event ≠ .needData) :
    (events ++ [event]).count .needData = events.count .needData := by
  rw [List.count_append, List.count_singleton, if_neg (by simpa using h), Nat.add_zero]

/-- A demand that is received is handled, unless there is no live input to feed. -/
theorem underWay_receive {event : Event} {rest : List Event} (hl : s.loop = .receive)
    (h : s.pending = event :: rest) :
    let s' := { s with pending := rest, loop := afterEvent s.feed event }
    s'.loop ≠ .markFallback ∧
      (s'.underWay = s.underWay ∨ s'.underWay ≤ s.underWay ∧ s.feed.Idle) := by
  cases event with
  | needData =>
    by_cases idle : s.feed.Idle
    · have hquit : afterEvent s.feed .needData = .askQuit := if_pos idle
      simp [underWay, hquit, hl, h, idle, LoopPoint.serves]
    · have hpop : afterEvent s.feed .needData = .pop := if_neg idle
      simp [underWay, hpop, hl, h, LoopPoint.serves]
  | _ => simp [underWay, afterEvent, hl, h, LoopPoint.serves]

/-- `Beat` tells what the possible actions do to the demands. -/
theorem beat_of_step (ha : a ≠ .arrive .needData) (hstep : Step s a s') : Beat s a s' := by
  cases hstep with
  | play hl h | refuseToPlay hl h =>
    exact .other nofun nofun nofun (pace_play h) rfl rfl rfl nofun (by simp [hl, LoopPoint.leaves])
      (.inl (by simp [underWay, hl, LoopPoint.serves]))
  | failToPlay hl | markError hl | lowerFlag hl | leave hl | raiseFlag hl | enter hl
  | hearNothing hl _ | findNothing hl _ | popFrame hl _ =>
    exact .other nofun nofun nofun rfl rfl rfl rfl nofun (by simp [hl, LoopPoint.leaves])
      (.inl (by simp [underWay, hl, LoopPoint.serves]))
  | askQuit hl =>
    refine .other nofun nofun nofun rfl rfl rfl rfl ?_ (by simp [hl, LoopPoint.leaves]) (.inl ?_)
    · cases s.quit <;> simp
    · cases s.quit <;> simp [underWay, hl, LoopPoint.serves]
  | receive hl h =>
    obtain ⟨hmark, hunder⟩ := underWay_receive hl h
    exact .other nofun nofun nofun rfl rfl rfl rfl (fun heq => absurd heq hmark)
      (by simp [hl, LoopPoint.leaves])
      (hunder.imp_right fun hle => ⟨hle.1, .inr (.inr hle.2)⟩)
  | popClosed hl _ =>
    exact .other nofun nofun nofun rfl rfl rfl rfl nofun (by simp [hl, LoopPoint.leaves])
      (.inr ⟨by simp [underWay, hl, LoopPoint.serves], .inl rfl⟩)
  | deliver hl h =>
    exact .answered (pace_push_ok h) rfl rfl (by simp [underWay, hl, LoopPoint.serves])
  | refuse hl h =>
    exact .other nofun nofun nofun (pace_push_error h) rfl rfl rfl nofun
      (by simp [hl, LoopPoint.leaves])
      (.inr ⟨by simp [underWay, hl, LoopPoint.serves], .inl rfl⟩)
  | failOver hl h =>
    exact .switched (pace_select h).2 rfl rfl (by simp [underWay, hl, LoopPoint.serves])
  | refuseToFailOver hl h => cases (pace_select h).1
  | markFallback hl =>
    exact .other nofun nofun nofun rfl rfl rfl rfl nofun (by simp [hl, LoopPoint.leaves])
      (.inr ⟨by simp [underWay, hl, LoopPoint.serves], .inr (.inl hl)⟩)
  | disconnect hs => exact .cut rfl rfl rfl rfl
  | endStream hs _ =>
    obtain ⟨hpace, hnone⟩ := pace_endOfStream s.deck.rig
    refine .other nofun nofun nofun hpace rfl rfl rfl id id (.inl ?_)
    have hcount : (MediaEngine.endOfStream s.deck.rig).2.1.count .needData = 0 :=
      List.count_eq_zero.2 hnone
    simp [underWay, hcount]
  | wake hs =>
    exact .other nofun nofun nofun rfl rfl rfl rfl id id
      (.inl (congrArg (· + s.loop.serves.toNat) (count_concat_of_ne nofun)))
  | arrive event =>
    have hevent : event ≠ .needData := fun heq => ha (congrArg Act.arrive heq)
    exact .other nofun nofun nofun rfl rfl rfl rfl id id
      (.inl (congrArg (· + s.loop.serves.toNat) (count_concat_of_ne hevent)))
  | demand h =>
    obtain ⟨hconnected, hanswered, hactive, hpace⟩ := pace_raiseDemand h
    refine .raised hconnected hanswered hactive hpace rfl rfl ?_
    simp [underWay, Nat.add_right_comm]
  | _ => exact .other nofun nofun nofun rfl rfl rfl rfl id id (.inl rfl)

/-- Only the thread that stops the stream cuts the demands off. -/
theorem Beat.connected_eq (h : Beat s a s') (hne : a ≠ .stop .disconnect) :
    (pace s'.deck.rig).connected = (pace s.deck.rig).connected := by
  cases h with
  | cut => exact absurd rfl hne
  | raised _ _ _ hpace _ _ _ | answered hpace _ _ _ | switched hpace _ _ _
  | other _ _ _ hpace _ _ _ _ _ _ => rw [hpace]

theorem Beat.connected_of_cut (h : Beat s (.stop .disconnect) s') :
    (pace s'.deck.rig).connected = false := by
  cases h with
  | cut hpace _ _ _ => rw [hpace]
  | other _ hne _ _ _ _ _ _ _ _ => exact absurd rfl hne

/-- Only the loop puts another input on air. -/
theorem Beat.input_eq (h : Beat s a s') (hne : a ≠ .loop .failOver) :
    s'.feed.input = s.feed.input := by
  cases h with
  | switched => exact absurd rfl hne
  | raised _ _ _ _ hfeed _ _ | cut _ hfeed _ _ => rw [hfeed]
  | answered _ hfeed _ _ =>
    rw [hfeed]
    rfl
  | other _ _ _ _ _ hinput _ _ _ _ => exact hinput

theorem Beat.input_of_switched (h : Beat s (.loop .failOver) s') :
    s'.feed.input = .fallback := by
  cases h with
  | switched _ hfeed _ _ => rw [hfeed]
  | other _ _ hne _ _ _ _ _ _ _ => exact absurd rfl hne

/-- Demands are raised while the live input is on air and they are not cut off. -/
theorem Beat.raised_of_demand (h : Beat s .demand s') :
    (pace s.deck.rig).connected = true ∧ (pace s.deck.rig).active = some .live := by
  cases h with
  | raised hconnected _ hactive _ _ _ _ => exact ⟨hconnected, hactive⟩
  | other hne _ _ _ _ _ _ _ _ _ => exact absurd rfl hne

/-! ## Schedules -/

/-- What is under way is marked, and what is marked is under way, as long as the loop goes on with
the live input on air. -/
structure Matched (s : Threads Simulator SimPipeline) : Prop where
  marked : s.underWay ≤ (pace s.deck.rig).pending.toNat
  served : s.loop.leaves = false → s.feed.input = .live →
    s.underWay = (pace s.deck.rig).pending.toNat

/-- What is on air is known to the loop. -/
structure OnAir (s : Threads Simulator SimPipeline) : Prop where
  mode : s.feed.mode = .live
  active : (pace s.deck.rig).active = some s.feed.input
  switched : s.loop = .markFallback → s.feed.input = .fallback

/-- A demand is marked from when it is raised until it is answered, and so the simulator has kept
it. -/
structure Counted (first : Pace) (acts : List Act) (s : Threads Simulator SimPipeline) : Prop where
  sent : acts.count .demand = s.feed.delivered + (pace s.deck.rig).pending.toNat
  requests : (pace s.deck.rig).requests = first.requests + acts.count .demand
  live : (pace s.deck.rig).live = first.live + s.feed.delivered

/-- No demand is raised late. -/
structure Timely (acts : List Act) (s : Threads Simulator SimPipeline) : Prop where
  cut : .stop .disconnect ∈ acts → (pace s.deck.rig).connected = false
  switched : .loop .failOver ∈ acts → s.feed.input = .fallback
  notAfterCut : ¬ Precedes (.stop .disconnect) .demand acts
  notAfterSwitch : ¬ Precedes (.loop .failOver) .demand acts

theorem Matched.step (h : Matched s) (honAir : OnAir s) (hbeat : Beat s a s') : Matched s' := by
  obtain ⟨hmarked, hserved⟩ := h
  cases hbeat with
  | raised _ hanswered _ hpace _ _ hunder =>
    -- nothing has been under way
    rw [hanswered, Bool.toNat_false, Nat.le_zero] at hmarked
    rw [hmarked] at hunder
    constructor <;> simp [hunder, hpace]
  | answered hpace _ _ hunder =>
    have hone := Bool.toNat_le (pace s.deck.rig).pending
    have hnone : s'.underWay = 0 := by omega
    constructor <;> simp [hnone, hpace]
  | switched hpace hfeed hloop hunder =>
    constructor
    · rw [hunder, hpace]
      exact hmarked
    · rw [hfeed]
      nofun
  | cut hpace hfeed hloop hunder =>
    rw [← hunder] at hmarked hserved
    constructor
    · rw [hpace]
      exact hmarked
    · rw [hpace, hfeed, hloop]
      exact hserved
  | other _ _ _ hpace _ hinput _ _ hleaves hunder =>
    constructor
    · rw [hpace]
      exact Nat.le_trans (hunder.elim Nat.le_of_eq And.left) hmarked
    · intro hgoes hlive
      rw [hinput] at hlive
      have hgoes' : s.loop.leaves = false := by
        rw [← Bool.not_eq_true] at hgoes ⊢
        exact mt hleaves hgoes
      rw [hpace, ← hserved hgoes' hlive]
      -- nothing that was under way has been dropped
      rcases hunder with heq | ⟨-, hended | hmark | idle⟩
      · exact heq
      · rw [hgoes] at hended
        cases hended
      · rw [honAir.switched hmark] at hlive
        cases hlive
      · rw [Feed.Idle, honAir.mode, Feed.failedOver, hlive] at idle
        simp at idle

theorem OnAir.step (h : OnAir s) (hbeat : Beat s a s') : OnAir s' := by
  obtain ⟨hmode, hactive, hswitched⟩ := h
  cases hbeat with
  | raised _ _ _ hpace hfeed hloop _ | cut hpace hfeed hloop _ =>
    rw [← hfeed] at hmode hactive hswitched
    rw [← hloop] at hswitched
    exact ⟨hmode, by rw [hpace]; exact hactive, hswitched⟩
  | answered hpace hfeed hloop _ =>
    refine ⟨?_, ?_, by simp [hloop]⟩
    · rw [hfeed]
      exact hmode
    · rw [hpace, hfeed]
      exact hactive
  | switched hpace hfeed hloop _ =>
    refine ⟨?_, ?_, ?_⟩
    · rw [hfeed]
      exact hmode
    · rw [hpace, hfeed]
    · rw [hfeed]
      exact fun _ => rfl
  | other _ _ _ hpace hmode' hinput _ hmark _ _ =>
    refine ⟨hmode'.trans hmode, ?_, ?_⟩
    · rw [hpace, hinput]
      exact hactive
    · rw [hinput]
      exact fun hl => hswitched (hmark hl)

theorem Counted.step {first : Pace} (h : Counted first acts s) (hmatched : Matched s)
    (hbeat : Beat s a s') : Counted first (acts ++ [a]) s' := by
  obtain ⟨hsent, hrequests, hlive⟩ := h
  cases hbeat with
  | raised _ hanswered _ hpace hfeed _ _ =>
    rw [hanswered] at hsent
    constructor <;> simp [hpace, hfeed, hsent, hrequests, hlive, Nat.add_assoc]
  | answered hpace hfeed _ hunder =>
    -- the demand that is answered has been marked
    have hpending : (pace s.deck.rig).pending.toNat = 1 :=
      Nat.le_antisymm (Bool.toNat_le _) (by have := hmatched.marked; omega)
    rw [hpending] at hsent
    constructor <;> simp [hpace, hfeed, hsent, hrequests, hlive, Nat.add_assoc, Feed.timedFrom]
  | switched hpace hfeed _ _ | cut hpace hfeed _ _ =>
    constructor <;> simp [hpace, hfeed, hsent, hrequests, hlive]
  | other hdemand _ _ hpace _ _ hdelivered _ _ _ =>
    have hcount : (acts ++ [a]).count .demand = acts.count .demand := by
      rw [List.count_append, List.count_singleton, if_neg (by simpa using hdemand), Nat.add_zero]
    constructor
    · rw [hcount, hpace, hdelivered, hsent]
    · rw [hcount, hpace, hrequests]
    · rw [hpace, hdelivered, hlive]

theorem mem_of_mem_concat {b : Act} (hm : b ∈ acts ++ [a]) (hne : a ≠ b) : b ∈ acts :=
  (List.mem_append.1 hm).resolve_right fun heq => hne (List.mem_singleton.1 heq).symm

theorem Timely.step (h : Timely acts s) (honAir : OnAir s) (hbeat : Beat s a s') :
    Timely (acts ++ [a]) s' := by
  obtain ⟨hcut, hswitched, hafterCut, hafterSwitch⟩ := h
  refine ⟨fun hm => ?_, fun hm => ?_, ?_, ?_⟩
  · by_cases heq : a = .stop .disconnect
    · subst heq
      exact hbeat.connected_of_cut
    · rw [hbeat.connected_eq heq]
      exact hcut (mem_of_mem_concat hm heq)
  · by_cases heq : a = .loop .failOver
    · subst heq
      exact hbeat.input_of_switched
    · rw [hbeat.input_eq heq]
      exact hswitched (mem_of_mem_concat hm heq)
  · rw [precedes_concat]
    rintro (hp | ⟨rfl, hm⟩)
    · exact hafterCut hp
    · obtain ⟨hconnected, -⟩ := hbeat.raised_of_demand
      rw [hcut hm] at hconnected
      cases hconnected
  · rw [precedes_concat]
    rintro (hp | ⟨rfl, hm⟩)
    · exact hafterSwitch hp
    · obtain ⟨-, hactive⟩ := hbeat.raised_of_demand
      rw [honAir.active, hswitched hm] at hactive
      cases hactive

/-- What a schedule from a live pipeline has come to, and what the simulator had kept before. -/
structure Paced (first : Pace) (acts : List Act) (s : Threads Simulator SimPipeline) : Prop where
  matched : Matched s
  onAir : OnAir s
  counted : Counted first acts s
  timely : Timely acts s

theorem Paced.step {first : Pace} (h : Paced first acts s) (ha : a ≠ .arrive .needData)
    (hstep : Step s a s') : Paced first (acts ++ [a]) s' := by
  have hbeat := beat_of_step ha hstep
  exact ⟨h.matched.step h.onAir hbeat, h.onAir.step hbeat, h.counted.step h.matched hbeat,
    h.timely.step h.onAir hbeat⟩

/-- How pushes are refused does not matter to the demands. -/
theorem Paced.withRefusal {first : Pace} (h : Paced first acts s) (fault : Option FlowError) :
    Paced first acts { s with deck.rig.engine := s.deck.rig.engine.setRefusal fault } :=
  ⟨⟨h.matched.marked, h.matched.served⟩, ⟨h.onAir.mode, h.onAir.active, h.onAir.switched⟩,
    ⟨h.counted.sent, h.counted.requests, h.counted.live⟩,
    ⟨h.timely.cut, h.timely.switched, h.timely.notAfterCut, h.timely.notAfterSwitch⟩⟩

/-! ### Faults that come and go -/

/-- What happens to the threads of a pipeline of the simulator. -/
inductive Happening where
  | act (a : Act)
  /-- From now on pushes are refused in this way, or no longer. -/
  | refusal (fault : Option FlowError)
  deriving DecidableEq, Repr

/-- The actions of the threads, and of what is around them, among what happens. -/
def actsOf (history : List Happening) : List Act :=
  history.filterMap fun
    | .act a => some a
    | .refusal _ => none

/-- The threads after something has happened, if it is possible now. -/
def happen (s : Threads Simulator SimPipeline) : Happening → Option (Threads Simulator SimPipeline)
  | .act a => s.act a
  | .refusal fault => some { s with deck.rig.engine := s.deck.rig.engine.setRefusal fault }

/-- One thing after another, if each is possible when it is its turn. -/
def through (s : Threads Simulator SimPipeline) (history : List Happening) :
    Option (Threads Simulator SimPipeline) :=
  history.foldlM happen s

theorem Paced.through {first : Pace} {history : List Happening} (h : Paced first [] s)
    (harrive : .act (.arrive .needData) ∉ history) (hrun : s.through history = some s') :
    Paced first (actsOf history) s' := by
  suffices hall : .act (.arrive .needData) ∉ history → Paced first (actsOf history) s' from
    hall harrive
  refine foldlM_induction (C := fun history t =>
    .act (.arrive .needData) ∉ history → Paced first (actsOf history) t) ?_ (fun _ => h) hrun
  intro history happening t t' ht hnext harrive
  rw [List.mem_append, List.mem_singleton, not_or] at harrive
  have hbefore := ht harrive.1
  rw [actsOf, List.filterMap_append, ← actsOf]
  cases happening with
  | act a =>
    exact hbefore.step (fun heq => harrive.2 (congrArg Happening.act heq.symm))
      (act_eq_some.1 hnext)
  | refusal fault =>
    cases hnext
    rw [List.filterMap_cons_none rfl, List.filterMap_nil, List.append_nil]
    exact hbefore.withRefusal fault

/-- A live pipeline of the simulator that has just been built has raised no demand. -/
theorem paced_of_build {p built : Player Simulator SimPipeline} {request : BuildRequest}
    {held : Held SimPipeline} (hmode : request.mode = .live)
    (hbuild : p.build request = (.ok (), built)) (hheld : built.held = some held)
    {queue : FrameQueue} {pending : List Event} (hpending : .needData ∉ pending) :
    let s := begin { built with queue } { held with pending }
    Paced (pace s.deck.rig) [] s := by
  have hend := Player.build_end p request
  rw [hbuild] at hend
  cases hend with
  | @built t pipeline engine _ ht hi =>
    cases hheld
    have hmode : t.mode = .live := (Topology.mode_of_build ht).trans hmode
    have hlive : t.liveSource?.isSome = true := by
      rw [Topology.liveSource_of_build ht, hmode]
      rfl
    change Simulator.instantiate t p.engine = _ at hi
    rw [Simulator.instantiate] at hi
    split at hi <;> cases hi
    intro s
    have hnone : s.underWay = 0 := by
      have hcount : s.underWay = pending.count .needData := rfl
      rw [hcount, List.count_eq_zero.2 hpending]
    have hfeed : s.feed = .ofMode .live := congrArg Feed.ofMode hmode
    have hactive : (pace s.deck.rig).active = some .live := by
      have hfirst : (pace s.deck.rig).active =
          some (if t.liveSource?.isSome then .live else .fallback) := rfl
      rw [hfirst, hlive]
      rfl
    have hnever (a b : Act) : ¬ Precedes a b [] := fun hp => List.not_mem_nil hp.mem.1
    have hmatched : Matched s := by
      refine ⟨?_, fun _ _ => hnone⟩
      rw [hnone]
      exact Nat.zero_le _
    have honAir : OnAir s := by
      refine ⟨?_, ?_, fun hpoint => ?_⟩
      · rw [hfeed]
        rfl
      · rw [hactive, hfeed]
        rfl
      · cases hpoint
    have hcounted : Counted (pace s.deck.rig) [] s := by
      refine ⟨?_, rfl, ?_⟩
      · rw [hfeed]
        rfl
      · rw [hfeed]
        rfl
    have htimely : Timely [] s :=
      ⟨fun hmem => absurd hmem List.not_mem_nil, fun hmem => absurd hmem List.not_mem_nil,
        hnever _ _, hnever _ _⟩
    exact ⟨hmatched, honAir, hcounted, htimely⟩

/-- A live pipeline of the simulator is played by the loop, with whatever frames and whatever events
but demands under way, while frames and other events come, pushes begin and cease to be refused, and
the stream is stopped, in whatever order all this happens. Never more than one demand is on its way
to the loop or being handled by it. As many demands have been raised as frames have been accepted,
and one more while one is marked as unanswered, as the simulator has counted them. None is raised
after the demands have been cut off, nor after the fallback has been put on air. As long as the loop
goes on with the live input on air, a demand is marked exactly if one is on its way or being
handled, so that a pipeline that runs either may raise one or has one that is seen to. -/
theorem demand_of_history {p built : Player Simulator SimPipeline} {request : BuildRequest}
    {held : Held SimPipeline} (hmode : request.mode = .live)
    (hbuild : p.build request = (.ok (), built)) (hheld : built.held = some held)
    {queue : FrameQueue} {pending : List Event} (hpending : .needData ∉ pending)
    {history : List Happening} (harrive : .act (.arrive .needData) ∉ history)
    (hrun : (begin { built with queue } { held with pending }).through history = some s) :
    s.underWay ≤ 1 ∧
    ((actsOf history).count .demand =
        s.feed.delivered + s.deck.rig.pipeline.demandPending.toNat ∧
      (actsOf history).count .demand ≤ s.feed.delivered + 1 ∧
      s.deck.rig.engine.demandRequests =
        built.engine.demandRequests + (actsOf history).count .demand ∧
      s.deck.rig.engine.live.length = built.engine.live.length + s.feed.delivered) ∧
    (¬ Precedes (.stop .disconnect) .demand (actsOf history) ∧
      ¬ Precedes (.loop .failOver) .demand (actsOf history)) ∧
    (s.loop.leaves = false → s.deck.rig.engine.active = some .live →
      (s.deck.rig.pipeline.demandPending = true ↔ s.underWay = 1) ∧
      (s.deck.rig.pipeline.running = true → s.deck.rig.pipeline.demandConnected = true →
        (raiseDemand? s.deck.rig).isSome ∨ s.underWay = 1)) := by
  have h : Paced _ (actsOf history) s :=
    (paced_of_build hmode hbuild hheld hpending).through harrive hrun
  obtain ⟨⟨hmarked, hserved⟩, ⟨-, hactive, -⟩, ⟨hsent, hrequests, hlive⟩, htimely⟩ := h
  have hone := Bool.toNat_le s.deck.rig.pipeline.demandPending
  have hsent : (actsOf history).count .demand =
      s.feed.delivered + s.deck.rig.pipeline.demandPending.toNat := hsent
  refine ⟨Nat.le_trans hmarked hone, ⟨hsent, by omega, hrequests, hlive⟩,
    ⟨htimely.notAfterCut, htimely.notAfterSwitch⟩, fun hgoes honAir => ?_⟩
  have hinput : s.feed.input = .live := Option.some.inj (hactive.symm.trans honAir)
  have hunder : s.underWay = s.deck.rig.pipeline.demandPending.toNat := hserved hgoes hinput
  rw [hunder]
  constructor
  · cases s.deck.rig.pipeline.demandPending <;> simp
  · intro hrunning hconnected
    cases hp : s.deck.rig.pipeline.demandPending with
    | true => exact .inr rfl
    | false =>
      left
      rw [raiseDemand?, if_pos]
      · rfl
      · simp [demandDue, hrunning, hconnected, hp, honAir]

/-- The threads of the stream of the trial, with a frame queued and nothing under way. -/
def quietThreads : Option (Threads Simulator SimPipeline) :=
  trialBuilt.held.map fun held =>
    begin { trialBuilt with queue := (trialBuilt.queue.push trialFrame).2 }
      { held with pending := [] }

/-- One demand is answered; then pushes are refused, and the next demand is handled. -/
def twoDemands : List Happening :=
  setOut.map .act ++
    [.act .demand, .act (.loop .receive), .act (.loop .pop), .act (.loop (.push trialFrame)),
      .refusal (some .flushing), .act .demand, .act (.loop .askQuit), .act (.loop .receive),
      .act (.submit trialFrame)]

/-- Two demands have been raised for one frame that was accepted, and one is being handled. -/
theorem demand_of_twoDemands :
    ∃ s, quietThreads.bind (·.through twoDemands) = some s ∧ s.loop = .pop ∧
      s.feed.delivered = 1 ∧ (actsOf twoDemands).count .demand = 2 ∧
      s.deck.rig.engine.demandRequests = 2 ∧ s.underWay = 1 := by
  have hreached : (quietThreads.bind (·.through twoDemands)).map (fun s =>
      (s.loop, s.feed.delivered, s.deck.rig.engine.active, s.deck.rig.pipeline.demandPending)) =
      some (.pop, 1, some .live, true) := by
    decide +kernel
  obtain ⟨s, hs, hat⟩ := Option.map_eq_some_iff.1 hreached
  simp only [Prod.mk.injEq] at hat
  obtain ⟨hl, hdelivered, hactive, hpending⟩ := hat
  obtain ⟨threads, hthreads, hrun⟩ := Option.bind_eq_some_iff.1 hs
  obtain ⟨held, hheld, rfl⟩ := Option.map_eq_some_iff.1 hthreads
  have hbuild : (Player.new .flawless ⟨2000, 4⟩).build trialRequest = (.ok (), trialBuilt) := by
    rfl
  obtain ⟨-, ⟨hsent, -, hrequests, -⟩, -, hserved⟩ :=
    demand_of_history rfl hbuild hheld List.not_mem_nil (by decide) hrun
  obtain ⟨hmarked, -⟩ := hserved (by rw [hl]; rfl) hactive
  rw [hdelivered, hpending] at hsent
  rw [hsent] at hrequests
  exact ⟨s, hs, hl, hdelivered, hsent, hrequests, hmarked.1 hpending⟩

end Threads

end StandbyStream
