import StandbyStream.Proofs.Player.Chronicle
import StandbyStream.Proofs.Player.Situation

/-!
# What is on air

That the fallback is on air is written down by the status of a player and by the feed of its loop.
Both are changed by the same pull, but they begin apart: the status with the build, the feed with
the start. They agree with each other, and with what the newest pipeline has been told, at all times
(`Player.Agrees`).
-/

namespace StandbyStream

variable {ρ π : Type}

/-! ## The newest pipeline -/

namespace Log

/-- The calls to the pipeline that was made last. -/
def newest (log : Log) : List (Call × Bool) :=
  log.callsOf (log.made.length - 1)

variable {log : Log} {number : Nat}

theorem made_append_entries (calls : List (Call × Bool)) :
    (log ++ entries number calls).made = log.made := by
  rw [made_append, made_entries, List.append_nil]

theorem newest_append_entries (hn : number + 1 = log.made.length) (calls : List (Call × Bool)) :
    newest (log ++ entries number calls) = log.newest ++ calls := by
  have hlast : log.made.length - 1 = number := by omega
  rw [newest, made_append_entries, hlast, callsOf_append, callsOf_entries_self, newest, hlast]

/-- A pipeline that has just been made has not been called. -/
theorem ToNewest.newest_append_made (h : log.ToNewest) (t : Topology) :
    newest (log ++ [Entry.made t]) = [] := by
  have hmade : (made (log ++ [Entry.made t])).length - 1 = log.made.length := by
    rw [made_append, List.length_append]
    exact Nat.add_sub_cancel _ 1
  rw [newest, hmade, callsOf_append, h.callsOf_eq_nil (Nat.le_refl _)]
  rfl

end Log

/-- The status agrees with the calls of the newest pipeline: the fallback is on air if there is
nothing else or it has been switched to, and a switch that failed has been noted. -/
structure Status.Agrees (mode : Mode) (calls : List (Call × Bool)) (status : Status) : Prop where
  flag : status.onFallback = true ↔ mode = .fallbackOnly ∨ (.select .fallback, true) ∈ calls
  refused : (.select .fallback, false) ∈ calls →
    status.onFallback = false ∧ status.errorDetected = true

namespace Loop

/-- The status and the feed of a loop agree with the calls of its pipeline. -/
structure Agrees (mode : Mode) (calls : List (Call × Bool)) (l : Loop ρ π) : Prop where
  feed : l.feed.mode = mode
  branch : l.feed.failedOver = l.deck.status.onFallback
  status : l.deck.status.Agrees mode calls
  ended : (.select .fallback, false) ∈ calls → l.phase = .ended

/-- Calls that ask for no input change nothing about what is on air. -/
theorem Agrees.extend {mode : Mode} {calls later : List (Call × Bool)} {l l' : Loop ρ π}
    (h : l.Agrees mode calls) (on : l.phase ≠ .ended) (hmode : l'.feed.mode = l.feed.mode)
    (hbranch : l'.feed.failedOver = l.feed.failedOver)
    (hflag : l'.deck.status.onFallback = l.deck.status.onFallback)
    (hlater : ∀ accepted, (.select .fallback, accepted) ∉ later) :
    l'.Agrees mode (calls ++ later) := by
  have hnone : (.select .fallback, false) ∉ calls ++ later := by
    rw [List.mem_append, not_or]
    exact ⟨fun hm => on (h.ended hm), hlater false⟩
  refine ⟨hmode.trans h.feed, ?_, ⟨?_, fun hm => absurd hm hnone⟩, fun hm => absurd hm hnone⟩
  · rw [hbranch, hflag, h.branch]
  · rw [hflag, h.status.flag, List.mem_append]
    simp [hlater true]

variable [MediaEngine ρ π]

/-- The beginning of a loop does not change what is on air. -/
theorem onFallback_begin (l : Loop ρ π) :
    l.begin.deck.status.onFallback = l.deck.status.onFallback := by
  rw [begin.eq_def]
  split <;> rfl

variable {l l' : Loop (Tape ρ) (Taped π)}

/-- A step tells the pipeline what agrees with the status and the feed after it. -/
theorem Step.agrees {mode : Mode} {calls : List (Call × Bool)} (h : Step l l')
    (ha : l.Agrees mode calls) :
    ∃ later, l.deck.rig.Told l'.deck.rig later ∧ l'.Agrees mode (calls ++ later) := by
  have on := h.phase_ne_ended
  cases h with
  | demanded _ hd =>
      exact ⟨_, Rig.told_of_raiseDemand hd, ha.extend on rfl rfl rfl (by simp)⟩
  | delivered _ _ _ _ hpush =>
      exact ⟨_, Rig.told_of_push hpush, ha.extend on rfl rfl rfl (by simp)⟩
  | refused _ _ _ _ hpush =>
      exact ⟨_, Rig.told_of_push hpush, ha.extend on rfl rfl rfl (by simp)⟩
  | @switched rig _ _ _ _ _ hselect =>
      have ht : l.deck.rig.Told rig [(.select .fallback, true)] := Rig.told_of_select hselect
      -- no switch has failed before, or the loop would have ended
      have hnone : (.select .fallback, false) ∉ calls ++ [(.select .fallback, true)] := by
        have hbefore : (.select .fallback, false) ∉ calls := fun hm => on (ha.ended hm)
        simpa using hbefore
      refine ⟨_, ht, ha.feed, rfl, ⟨?_, fun hm => absurd hm hnone⟩, fun hm => absurd hm hnone⟩
      simp
  | @stuck fault rig _ live _ _ _ hselect =>
      have ht : l.deck.rig.Told rig [(.select .fallback, false)] := Rig.told_of_select hselect
      -- a feed that still serves demands has not failed over, and the flag says the same
      have hoff : l.deck.status.onFallback = false := by
        rw [← ha.branch]
        exact Bool.eq_false_iff.2 fun hf => live (Or.inr hf)
      refine ⟨_, ht, ha.feed, ha.branch, ⟨?_, ?_⟩, fun _ => rfl⟩
      · refine ha.status.flag.trans ?_
        simp
      · exact fun _ => ⟨hoff, Bool.or_true _⟩
  | _ => exact ⟨[], .refl _, ha.extend on rfl rfl rfl (by simp)⟩

/-- The loop of a pipeline that has not been asked for an input begins in agreement. -/
theorem agrees_begin {mode : Mode} {calls : List (Call × Bool)} (hfeed : l.feed = .ofMode mode)
    (hs : l.deck.status.Agrees mode calls)
    (hcalls : ∀ accepted, (.select .fallback, accepted) ∉ calls) :
    ∃ later, l.deck.rig.Told l.begin.deck.rig later ∧ l.begin.Agrees mode (calls ++ later) := by
  obtain ⟨played, ht, -⟩ := told_begin l
  obtain ⟨-, -, hfeed', -⟩ := begin_frame l
  have hflag := onFallback_begin l
  have hmode : l.begin.feed.mode = mode := by
    rw [hfeed', hfeed]
    rfl
  have hnone : ∀ accepted, (.select .fallback, accepted) ∉ calls ++ [(.play, played)] := by
    simpa using hcalls
  refine ⟨_, ht, hmode, ?_, ⟨?_, fun hm => absurd hm (hnone false)⟩,
    fun hm => absurd hm (hnone false)⟩
  · rw [hfeed', hfeed, hflag, Bool.eq_iff_iff, hs.flag]
    cases mode <;> simp [Feed.failedOver, Feed.ofMode, Mode.firstInput, hcalls true]
  · rw [hflag, hs.flag]
    simp

end Loop

/-! ## The player -/

namespace Player

/-- A held pipeline is the newest one. Before its start it has not been asked for an input; then the
feed of its loop agrees with the status. -/
structure Keeps (p : Player (Tape ρ) (Taped π)) (held : Held (Taped π)) : Prop where
  number : held.pipeline.number + 1 = p.engine.log.made.length
  topology : p.engine.log.made.getLast? = some held.topology
  unasked : held.running = none →
    ∀ accepted, (.select .fallback, accepted) ∉ p.engine.log.newest
  loop : ∀ running, held.running = some running →
    (p.loop held running).Agrees held.topology.mode p.engine.log.newest

/-- The status, the feed and the tape of a player agree on what is on air. -/
structure Agrees (ledger : Ledger) (p : Player (Tape ρ) (Taped π)) : Prop where
  toNewest : p.engine.log.ToNewest
  built : p.engine.log.made.getLast?.isSome = ledger.built
  status : ∀ t, p.engine.log.made.getLast? = some t → p.status.Agrees t.mode p.engine.log.newest
  held : ∀ held, p.held = some held → p.Keeps held

namespace Agrees

variable {ledger : Ledger} {p : Player (Tape ρ) (Taped π)}

/-- The agreement lasts if what the held pipeline is told agrees with the status from then on. -/
theorem told (h : p.Agrees ledger) {held held' : Held (Taped π)} (hh : p.held = some held)
    {p' : Player (Tape ρ) (Taped π)} {calls : List (Call × Bool)}
    (hlog : p'.engine.log = p.engine.log ++ Log.entries held.pipeline.number calls)
    (hstatus : p'.status.Agrees held.topology.mode (p.engine.log.newest ++ calls))
    (hh' : p'.held = some held') (hnumber : held'.pipeline.number = held.pipeline.number)
    (htopology : held'.topology = held.topology)
    (hloop : ∀ running, held'.running = some running →
      (p'.loop held' running).Agrees held.topology.mode (p.engine.log.newest ++ calls))
    (hunasked : held'.running = none →
      ∀ accepted, (.select .fallback, accepted) ∉ p.engine.log.newest ++ calls) :
    p'.Agrees ledger := by
  -- the held pipeline is the newest one, so the calls go to the newest and make no other
  have hk := h.held held hh
  have hmade : p'.engine.log.made = p.engine.log.made := by
    rw [hlog, Log.made_append_entries]
  have hnewest : p'.engine.log.newest = p.engine.log.newest ++ calls := by
    rw [hlog, Log.newest_append_entries hk.number]
  refine ⟨?_, ?_, ?_, ?_⟩
  · rw [hlog]
    exact h.toNewest.append_entries hk.number.symm calls
  · rw [hmade, h.built]
  · intro t ht
    rw [hmade, hk.topology] at ht
    cases ht
    rw [hnewest]
    exact hstatus
  · intro held'' hh''
    rw [hh'] at hh''
    cases hh''
    refine ⟨?_, ?_, ?_, ?_⟩
    · rw [hnumber, hmade, hk.number]
    · rw [hmade, htopology, hk.topology]
    · rw [hnewest]
      exact hunasked
    · rw [hnewest, htopology]
      exact hloop

/-- The agreement is about the tape, two flags and what is held, if anything. -/
theorem of_eq (h : p.Agrees ledger) {p' : Player (Tape ρ) (Taped π)}
    (hlog : p'.engine.log = p.engine.log) (hflag : p'.status.onFallback = p.status.onFallback)
    (herror : p'.status.errorDetected = p.status.errorDetected)
    (hheld : p'.held = none ∨ p'.held = p.held) : p'.Agrees ledger := by
  have hs : ∀ mode calls, p.status.Agrees mode calls → p'.status.Agrees mode calls := by
    intro mode calls hs
    refine ⟨?_, ?_⟩
    · rw [hflag]
      exact hs.flag
    · rw [hflag, herror]
      exact hs.refused
  refine ⟨?_, ?_, ?_, ?_⟩
  · rw [hlog]
    exact h.toNewest
  · rw [hlog, h.built]
  · intro t ht
    rw [hlog] at ht ⊢
    exact hs _ _ (h.status t ht)
  · intro held hh
    rcases hheld with hnone | hsame
    · cases hh.symm.trans hnone
    · obtain ⟨hnumber, htopology, hunasked, hloop⟩ := h.held held (hsame ▸ hh)
      rw [← hlog] at hnumber htopology hunasked hloop
      refine ⟨hnumber, htopology, hunasked, ?_⟩
      intro running hr
      have hl := hloop running hr
      exact ⟨hl.feed, hl.branch.trans hflag.symm, hs _ _ hl.status, hl.ended⟩

theorem withLoop (h : p.Agrees ledger) {held : Held (Taped π)} (hh : p.held = some held)
    {l : Loop (Tape ρ) (Taped π)} {calls : List (Call × Bool)}
    (ht : (⟨held.pipeline, p.engine⟩ : Rig (Tape ρ) (Taped π)).Told l.deck.rig calls)
    (ha : l.Agrees held.topology.mode (p.engine.log.newest ++ calls)) :
    (p.withLoop held l).Agrees ledger := by
  refine h.told hh ht.2 ha.status (held_withLoop ..) ht.1 rfl ?_ nofun
  rintro _ ⟨⟩
  exact ⟨ha.feed, ha.branch, ha.status, ha.ended⟩

variable [MediaEngine ρ π]

theorem durable (ledger : Ledger) : Durable (Agrees ledger : Player (Tape ρ) (Taped π) → Prop) where
  patience := fun h _ => h.of_eq rfl rfl rfl (.inr rfl)
  pending := by
    intro p held hh h pending
    have hk := h.held held hh
    refine ⟨h.toNewest, h.built, h.status, ?_⟩
    rintro _ ⟨⟩
    refine ⟨hk.number, hk.topology, hk.unasked, ?_⟩
    intro running hr
    have hl := hk.loop running hr
    exact ⟨hl.feed, hl.branch, hl.status, hl.ended⟩
  begin := by
    intro p held hh hr h
    have hk := h.held held hh
    have hs : (p.unbegun held).deck.status.Agrees held.topology.mode p.engine.log.newest :=
      h.status held.topology hk.topology
    obtain ⟨calls, ht, ha⟩ := Loop.agrees_begin rfl hs (hk.unasked hr)
    exact h.withLoop hh ht ha
  step := by
    intro p held running l hh hr hstep h
    obtain ⟨calls, ht, ha⟩ := hstep.agrees ((h.held held hh).loop running hr)
    exact h.withLoop hh ht ha

/-- A pipeline that has just been made has not been told anything. -/
theorem build (h : p.Agrees ledger) (request : BuildRequest) :
    (p.build request).2.Agrees (p.ledgerAfter ledger (.action (.build request))) := by
  have hend := build_end p request
  rw [ledgerAfter]
  generalize p.build request = result at hend
  cases hend with
  | refused => exact h
  | @failed cause engine _ other he =>
      have hlog : engine.log = p.engine.log := Tape.log_of_attempt he
      have hfailed : ({ p with held := none, engine } : Player (Tape ρ) (Taped π)).Agrees ledger :=
        h.of_eq hlog rfl rfl (.inl rfl)
      cases cause with
      | playing => exact absurd rfl other
      | _ => exact ⟨hfailed.toNewest, hfailed.built, hfailed.status, hfailed.held⟩
  | @built t pipeline engine _ _ hi =>
      obtain ⟨hnumber, hlog⟩ := Tape.log_of_made hi
      have hmade : engine.log.made = p.engine.log.made ++ [t] := by
        rw [hlog, Log.made_append]
        rfl
      -- the new pipeline is the newest one from now on, and nothing has been told to it
      have hlast : engine.log.made.getLast? = some t := by
        rw [hmade]
        exact List.getLast?_concat
      have hnone : engine.log.newest = [] := by
        rw [hlog]
        exact h.toNewest.newest_append_made t
      refine ⟨?_, ?_, ?_, ?_⟩
      · change engine.log.ToNewest
        rw [hlog]
        exact h.toNewest.append_made t
      · exact congrArg Option.isSome hlast
      · intro t' ht'
        cases ht'.symm.trans hlast
        change Status.Agrees t.mode engine.log.newest (.afterBuild (t.mode = .fallbackOnly))
        rw [hnone]
        refine ⟨?_, ?_⟩
        · simp [Status.afterBuild]
        · intro hrefused
          cases hrefused
      · rintro _ ⟨⟩
        refine ⟨?_, hlast, ?_, ?_⟩
        · change pipeline.number + 1 = engine.log.made.length
          rw [hmade, hnumber, List.length_append]
          rfl
        · intro _ accepted
          change _ ∉ engine.log.newest
          rw [hnone]
          exact List.not_mem_nil
        · intro running hr
          cases hr

/-- A farewell asks for no input. -/
theorem takeDown (h : p.Agrees ledger) {held : Held (Taped π)} (hh : p.held = some held) :
    (p.takeDown held).Agrees ledger := by
  have hk := h.held held hh
  obtain ⟨f, -, hlog⟩ := log_takeDown p held
  have hnone : ∀ accepted, (.select .fallback, accepted) ∉ f.calls := by
    obtain ⟨_ | answer, halted⟩ := f <;> simp [Farewell.calls]
  have hstatus : p.status.Agrees held.topology.mode (p.engine.log.newest ++ f.calls) := by
    obtain ⟨hflag, hrefused⟩ := h.status held.topology hk.topology
    refine ⟨?_, ?_⟩
    · simpa [hnone true] using hflag
    · simpa [hnone false] using hrefused
  obtain ⟨held', hh', hnumber, htopology, hrunning⟩ : ∃ held', (p.takeDown held).held = some held' ∧
      held'.pipeline.number = held.pipeline.number ∧ held'.topology = held.topology ∧
      held'.running = held.running := by
    rw [Player.takeDown.eq_def]
    refine ⟨_, rfl, ?_, rfl, rfl⟩
    simp only
    split <;> rfl
  refine h.told hh hlog hstatus hh' hnumber htopology ?_ ?_
  · intro running hr
    have hl := hk.loop running (hrunning ▸ hr)
    refine ⟨hl.feed, hl.branch, hstatus, ?_⟩
    intro hm
    refine hl.ended ?_
    simpa [hnone false] using hm
  · intro hr
    have hunasked := hk.unasked (hrunning ▸ hr)
    simpa [hnone] using hunasked

theorem askToQuit (h : p.Agrees ledger) : p.askToQuit.Agrees ledger := by
  rw [Player.askToQuit.eq_def]
  cases hh : p.held with
  | none => exact h.of_eq rfl rfl rfl (.inl rfl)
  | some held =>
      have hwoken := (durable ledger).pending hh h (held.pending ++ [.wake])
      exact hwoken.of_eq rfl rfl rfl (.inr rfl)

theorem askedToQuit (h : p.Agrees ledger) {held : Held (Taped π)} (hh : p.held = some held) :
    (p.askedToQuit held).Agrees ledger := by
  have hstopping : ({ p with state := .stopping } : Player (Tape ρ) (Taped π)).Agrees ledger :=
    h.of_eq rfl rfl rfl (.inr rfl)
  exact (hstopping.takeDown hh).askToQuit

theorem stop (h : p.Agrees ledger) : p.stop.Agrees (p.ledgerAfter ledger (.action .stop)) := by
  have hstop : p.stop.Agrees ledger := by
    cases hh : p.held with
    | none =>
        rw [stop_of_held_none hh]
        exact h.of_eq rfl rfl rfl (.inr rfl)
    | some held =>
        rw [stop_of_held hh]
        have hout : (p.runOut held).Agrees ledger := (durable ledger).settle (h.askedToQuit hh)
        exact hout.of_eq rfl rfl rfl (.inl rfl)
  exact ⟨hstop.toNewest, hstop.built, hstop.status, hstop.held⟩

theorem take (h : p.Agrees ledger) (turn : Turn ρ) :
    (p.take turn.onTape).Agrees (p.ledgerAfter ledger turn.onTape) := by
  cases turn with
  | action a =>
      cases a with
      | build request => exact h.build request
      | start => exact (durable ledger).start h
      | stop => exact h.stop
      | submit frame => exact (durable ledger).submit (h.of_eq rfl rfl rfl (.inr rfl))
      | post event => exact (durable ledger).post h event
      | alter change => exact (durable ledger).alter (h.of_eq rfl rfl rfl (.inr rfl))
  | expiry => exact (durable ledger).expire h

theorem after (h : p.Agrees ledger) (turns : List (Turn ρ)) :
    (p.after (turns.map Turn.onTape)).Agrees (p.ledgerOf ledger (turns.map Turn.onTape)) := by
  refine after_induction ?_ h
  intro taped hm ledger p h
  obtain ⟨turn, -, rfl⟩ := List.mem_map.1 hm
  exact h.take turn

omit [MediaEngine ρ π] in
theorem new (engine : ρ) (settings : PlayerSettings) :
    (Player.new (.fresh engine) settings : Player (Tape ρ) (Taped π)).Agrees .blank :=
  ⟨Log.toNewest_nil, rfl, nofun, nofun⟩

end Agrees

/-! ## The ledger off the tape -/

variable [MediaEngine ρ π]

omit [MediaEngine ρ π] in
theorem stage_untaped (p : Player (Tape ρ) (Taped π)) : p.untaped.stage = p.stage := by
  rw [stage, stage, untaped.eq_def, Option.map_map]
  rfl

theorem ledgerAfter_untaped (p : Player (Tape ρ) (Taped π)) (ledger : Ledger) (turn : Turn ρ) :
    p.untaped.ledgerAfter ledger turn = p.ledgerAfter ledger turn.onTape := by
  cases turn with
  | action a =>
      cases a with
      | build request =>
          have h := congrArg Prod.fst (build_untaped p request)
          simp only at h
          simp only [ledgerAfter, Turn.onTape, Action.onTape, h, stage_untaped]
      | _ => rfl
  | expiry => rfl

theorem ledgerOf_untaped (p : Player (Tape ρ) (Taped π)) (ledger : Ledger)
    (turns : List (Turn ρ)) :
    p.untaped.ledgerOf ledger turns = p.ledgerOf ledger (turns.map Turn.onTape) := by
  induction turns generalizing p ledger with
  | nil => rfl
  | cons turn turns ih =>
      rw [List.map_cons, ledgerOf, ledgerOf, ledgerAfter_untaped, take_untaped, ih]

end Player

end StandbyStream
