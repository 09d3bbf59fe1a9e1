import StandbyStream.Proofs.Player.Course

/-!
# The chronicle of a player

Whatever a player goes through, and however its engine answers, every pipeline receives the calls of
a course that goes as far as its life (`Player.calls_of_run`). What carries this through the turns is
the `Chronicle`: which pipelines the tape knows of, that all but the one held are accounted for, and
where the one held stands on its course.
-/

namespace StandbyStream

variable {ρ π : Type}

/-! ## A service under way -/

/-- What a pipeline may have been told while its loop stands as it does. -/
inductive Service.Underway (feed : Feed) (phase : Phase) : Service → Prop
  | unplayable (off : phase = .ended) : Underway feed phase .unplayable
  | fed {buffers : List Buffer} (silent : feed.mode = .fallbackOnly → buffers = []) :
      Underway feed phase (.played buffers none)
  | refused {buffers : List Buffer} {buffer : Buffer} (live : feed.mode = .live)
      (off : phase = .ended) : Underway feed phase (.played buffers (some (.refused buffer)))
  | switched {buffers : List Buffer} (live : feed.mode = .live)
      (fallback : feed.failedOver = true) :
      Underway feed phase (.played buffers (some (.switched true)))
  | stuck {buffers : List Buffer} (live : feed.mode = .live) (off : phase = .ended) :
      Underway feed phase (.played buffers (some (.switched false)))

namespace Service.Underway

variable {feed : Feed} {phase : Phase} {service : Service}

/-- Unless the loop has ended, its phase does not matter. -/
theorem of_on (on : phase ≠ .ended) (h : Underway feed phase service) (phase' : Phase) :
    Underway feed phase' service := by
  cases h with
  | unplayable off => exact absurd off on
  | fed silent => exact .fed silent
  | refused live off => exact absurd off on
  | switched live fallback => exact .switched live fallback
  | stuck live off => exact absurd off on

/-- As long as the feed is not idle, the flow of buffers has not ended. -/
theorem fed_of_live (on : phase ≠ .ended) (live : ¬ feed.Idle)
    (h : Underway feed phase service) : ∃ buffers, service = .played buffers none := by
  cases h with
  | unplayable off => exact absurd off on
  | fed silent => exact ⟨_, rfl⟩
  | refused _ off => exact absurd off on
  | switched _ fallback => exact absurd (Or.inr fallback) live
  | stuck _ off => exact absurd off on

/-- A feed without a live input hands on no buffer. -/
theorem silent {buffers : List Buffer} {last : Option LastWord}
    (h : Underway feed phase (.played buffers last)) (hm : feed.mode = .fallbackOnly) :
    buffers = [] ∧ last = none := by
  cases h with
  | fed silent => exact ⟨silent hm, rfl⟩
  | refused live => rw [hm] at live; cases live
  | switched live => rw [hm] at live; cases live
  | stuck live => rw [hm] at live; cases live

end Service.Underway

theorem Service.calls_push (buffers : List Buffer) (buffer : Buffer) :
    (Service.played (buffers ++ [buffer]) none).calls =
      (Service.played buffers none).calls ++ [(.push buffer, true)] := by
  simp [Service.calls]

theorem Service.calls_last (buffers : List Buffer) (last : LastWord) :
    (Service.played buffers (some last)).calls =
      (Service.played buffers none).calls ++ [last.call] := by
  simp [Service.calls]

/-- The last word ends the flow of buffers. -/
theorem Service.told_last {rig rig' : Rig (Tape ρ) (Taped π)} {buffers : List Buffer}
    (last : LastWord)
    (h : rig.engine.log.callsOf rig.pipeline.number = (Service.played buffers none).calls)
    (ht : rig.Told rig' [last.call]) :
    rig'.engine.log.callsOf rig'.pipeline.number = (Service.played buffers (some last)).calls := by
  rw [Service.calls_last, ← h]
  exact ht.callsOf

variable [MediaEngine ρ π]

namespace Loop

/-- The pipeline of a started loop has been told a service, which is under way. -/
def OnAir (l : Loop (Tape ρ) (Taped π)) : Prop :=
  ∃ service : Service,
    l.deck.rig.engine.log.callsOf l.deck.rig.pipeline.number = service.calls ∧
      service.Underway l.feed l.phase

variable {l l' : Loop (Tape ρ) (Taped π)}

/-- A step calls the pipeline of the loop alone, and keeps its service under way. -/
theorem Step.onAir (h : Step l l') (ha : l.OnAir) :
    l'.OnAir ∧ ∃ calls, l.deck.rig.Told l'.deck.rig calls := by
  have on := h.phase_ne_ended
  obtain ⟨service, hc, hs⟩ := ha
  cases h with
  | idle => exact ⟨⟨service, hc, hs.of_on on _⟩, [], .refl _⟩
  | closed => exact ⟨⟨service, hc, hs.of_on on _⟩, [], .refl _⟩
  | waiting => exact ⟨⟨service, hc, hs.of_on on _⟩, [], .refl _⟩
  | ended => exact ⟨⟨service, hc, hs.of_on on _⟩, [], .refl _⟩
  | failed => exact ⟨⟨service, hc, hs.of_on on _⟩, [], .refl _⟩
  | handled => exact ⟨⟨service, hc, hs⟩, [], .refl _⟩
  | demanded _ hd =>
      have ht := Rig.told_of_raiseDemand hd
      refine ⟨⟨service, ?_, hs⟩, [], ht⟩
      rw [ht.callsOf, hc, List.append_nil]
  | @delivered frame rest rig _ live hopen hq hpush =>
      have ht := Rig.told_of_push hpush
      obtain ⟨buffers, rfl⟩ := hs.fed_of_live on live
      have hm := (Feed.live_of_not_idle live).1
      refine ⟨⟨.played (buffers ++ [l.feed.stamp frame]) none, ?_, ?_⟩, _, ht⟩
      · rw [ht.callsOf, hc, Service.calls_push]
        rfl
      · exact .fed fun h => by
          rw [Feed.timedFrom, hm] at h
          cases h
  | @refused frame rest fault rig _ live hopen hq hpush =>
      have ht := Rig.told_of_push hpush
      obtain ⟨buffers, rfl⟩ := hs.fed_of_live on live
      have hm := (Feed.live_of_not_idle live).1
      have hcalls := Service.told_last (.refused (l.feed.stamp frame)) hc ht
      exact ⟨⟨_, hcalls, .refused hm rfl⟩, _, ht⟩
  | @switched rig _ live hopen hq hp hselect =>
      have ht := Rig.told_of_select hselect
      obtain ⟨buffers, rfl⟩ := hs.fed_of_live on live
      have hm := (Feed.live_of_not_idle live).1
      have hcalls := Service.told_last (.switched true) hc ht
      exact ⟨⟨_, hcalls, .switched hm rfl⟩, _, ht⟩
  | @stuck fault rig _ live hopen hq hp hselect =>
      have ht := Rig.told_of_select hselect
      obtain ⟨buffers, rfl⟩ := hs.fed_of_live on live
      have hm := (Feed.live_of_not_idle live).1
      have hcalls := Service.told_last (.switched false) hc ht
      exact ⟨⟨_, hcalls, .stuck hm rfl⟩, _, ht⟩

/-- A loop that begins tells its pipeline to play and nothing else. -/
theorem told_begin (l : Loop (Tape ρ) (Taped π)) :
    ∃ played, l.deck.rig.Told l.begin.deck.rig [(.play, played)] ∧
      (played = false → l.begin.phase = .ended) := by
  cases hs : MediaEngine.play l.deck.rig with
  | mk answer rig =>
      have ht := Rig.told_of_play hs
      refine ⟨answer.isOk, ?_, ?_⟩
      · rw [begin.eq_def, hs]
        cases answer <;> exact ht
      · rw [begin.eq_def, hs]
        cases answer with
        | error fault => exact fun _ => rfl
        | ok _ =>
            intro h
            cases h

/-- The service of a pipeline begins with its play. -/
theorem onAir_begin (l : Loop (Tape ρ) (Taped π))
    (h : l.deck.rig.engine.log.callsOf l.deck.rig.pipeline.number = []) : l.begin.OnAir := by
  obtain ⟨played, ht, hp⟩ := told_begin l
  have hc := ht.callsOf
  rw [h, List.nil_append] at hc
  cases played with
  | false => exact ⟨.unplayable, hc, .unplayable (hp rfl)⟩
  | true => exact ⟨.played [] none, hc, .fed fun _ => rfl⟩

/-- Once the queue is closed the pipeline is not called any more. -/
theorem Step.log_of_closed (h : Step l l') (hclosed : l.deck.queue.closed = true) :
    l'.deck.queue.closed = true ∧ l'.deck.rig.engine.log = l.deck.rig.engine.log := by
  cases h with
  | waiting _ _ hopen => simp [hclosed] at hopen
  | delivered _ _ hopen => simp [hclosed] at hopen
  | refused _ _ hopen => simp [hclosed] at hopen
  | switched _ _ hopen => simp [hclosed] at hopen
  | stuck _ _ hopen => simp [hclosed] at hopen
  | demanded _ hd =>
      obtain ⟨-, hl⟩ := Rig.told_of_raiseDemand hd
      exact ⟨hclosed, hl.trans (List.append_nil _)⟩
  | _ => exact ⟨hclosed, rfl⟩

end Loop

/-! ## Farewells -/

namespace Player

/-- A pipeline that is taken down is told a farewell. -/
theorem log_takeDown (p : Player (Tape ρ) (Taped π)) (held : Held (Taped π)) :
    ∃ f : Farewell,
      f.endOfStream.isSome = (held.running.isSome && held.topology.liveSource?.isSome) ∧
      (p.takeDown held).engine.log =
        p.engine.log ++ Log.entries held.pipeline.number f.calls := by
  have hd := Rig.told_of_disconnectDemand (⟨held.pipeline, p.engine⟩ : Rig (Tape ρ) (Taped π))
  rw [takeDown.eq_def]
  by_cases hs : held.running.isSome ∧ held.topology.liveSource?.isSome
  · have he := hd.trans (Rig.told_of_endOfStream _)
    have hh := he.trans (Rig.told_of_halt _)
    simp only [if_pos hs]
    refine ⟨⟨some _, _⟩, ?_, hh.2⟩
    rw [hs.1, hs.2]
    rfl
  · have hh := hd.trans (Rig.told_of_halt _)
    simp only [if_neg hs]
    refine ⟨⟨none, _⟩, ?_, hh.2⟩
    rw [← Bool.and_eq_true, Bool.not_eq_true] at hs
    rw [hs]
    rfl

/-- Once the queue is closed a loop that runs to rest calls nothing any more. -/
theorem log_settle_of_closed {p : Player (Tape ρ) (Taped π)} (h : p.queue.closed = true) :
    p.settle.engine.log = p.engine.log := by
  rcases p.settle_cases with hs | ⟨held, running, hh, hr⟩
  · rw [hs]
  have step : ∀ {l l' : Loop (Tape ρ) (Taped π)}, Loop.Step l l' →
      (l.deck.queue.closed = true ∧ l.deck.rig.engine.log = p.engine.log) →
      l'.deck.queue.closed = true ∧ l'.deck.rig.engine.log = p.engine.log := by
    intro l l' hstep ⟨hclosed, hlog⟩
    obtain ⟨hclosed', hlog'⟩ := hstep.log_of_closed hclosed
    exact ⟨hclosed', hlog'.trans hlog⟩
  obtain ⟨_, _, -, -, -, -, hlog⟩ := settle_loop step hh hr ⟨h, rfl⟩
  exact hlog

/-- The farewell is all that the pipeline is told before the loop runs out. -/
theorem log_askedToQuit (p : Player (Tape ρ) (Taped π)) (held : Held (Taped π)) :
    ∃ f : Farewell,
      f.endOfStream.isSome = (held.running.isSome && held.topology.liveSource?.isSome) ∧
      (p.askedToQuit held).engine.log =
        p.engine.log ++ Log.entries held.pipeline.number f.calls :=
  log_takeDown { p with state := .stopping } held

/-- All that a stop tells a pipeline is a farewell. -/
theorem log_stop {p : Player (Tape ρ) (Taped π)} {held : Held (Taped π)}
    (hh : p.held = some held) :
    ∃ f : Farewell,
      f.endOfStream.isSome = (held.running.isSome && held.topology.liveSource?.isSome) ∧
      p.stop.engine.log = p.engine.log ++ Log.entries held.pipeline.number f.calls := by
  obtain ⟨f, hf, hlog⟩ := p.log_askedToQuit held
  refine ⟨f, hf, ?_⟩
  rw [stop_of_held hh]
  -- the queue is closed before the loop runs out
  have hout := log_settle_of_closed (p := p.askedToQuit held) rfl
  exact hout.trans hlog

end Player

/-! ## Accounts -/

/-- What a tape says about the topologies of pipelines that were built. -/
structure Log.Records (log : Log) (topologies : List Topology) : Prop where
  made : log.made = topologies
  toNewest : log.ToNewest
  /-- In live mode alone there is a live source. -/
  sound : ∀ t ∈ topologies, t.liveSource?.isSome = (t.mode == .live)

/-- The calls of every pipeline are those of a course that goes as far as its life. -/
def Log.Accounts (log : Log) (lives : List Life) : Prop :=
  ∀ (k : Nat) (life : Life), lives[k]? = some life →
    ∃ c : Course, c.Of life ∧ log.callsOf k = c.calls

namespace Log

variable {log : Log} {lives : List Life} {life : Life}

/-- The pipeline that was made last is called. -/
theorem Records.append_entries {t : Topology} {number : Nat}
    (h : log.Records (lives.map (·.topology) ++ [t])) (hn : number = lives.length)
    (calls : List (Call × Bool)) :
    Records (log ++ entries number calls) (lives.map (·.topology) ++ [t]) where
  made := by rw [made_append, made_entries, List.append_nil, h.made]
  toNewest := h.toNewest.append_entries (by simp [h.made, hn]) calls
  sound := h.sound

/-- Calls to a later pipeline do not matter. -/
theorem Accounts.append_entries {number : Nat} (h : log.Accounts lives)
    (hn : number = lives.length) (calls : List (Call × Bool)) :
    Accounts (log ++ entries number calls) lives := by
  intro k life hk
  obtain ⟨c, hc, hcalls⟩ := h k life hk
  obtain ⟨hlt, -⟩ := List.getElem?_eq_some_iff.1 hk
  have hne : number ≠ k := by omega
  refine ⟨c, hc, ?_⟩
  rw [callsOf_append, callsOf_entries_of_ne hne, List.append_nil, hcalls]

theorem Accounts.append_made (h : log.Accounts lives) (t : Topology) :
    Accounts (log ++ [Entry.made t]) lives := by
  intro k life hk
  obtain ⟨c, hc, hcalls⟩ := h k life hk
  refine ⟨c, hc, ?_⟩
  rw [callsOf_append, hcalls]
  exact List.append_nil _

/-- One more life is accounted for by its course. -/
theorem Accounts.concat (h : log.Accounts lives) {c : Course} (hc : c.Of life)
    (hcalls : log.callsOf lives.length = c.calls) : log.Accounts (lives ++ [life]) := by
  intro k life' hk
  rw [List.getElem?_append] at hk
  split at hk
  · exact h k life' hk
  · next hle =>
      rw [List.getElem?_singleton] at hk
      split at hk
      · next h0 =>
          cases hk
          have hkl : k = lives.length := by omega
          exact ⟨c, hc, hkl ▸ hcalls⟩
      · cases hk

end Log

namespace Player

/-- What the tape of a player says about the pipelines with the given lives, by what the player
holds. -/
inductive Chronicle : List Life → Player (Tape ρ) (Taped π) → Prop
  | idle {lives : List Life} {p : Player (Tape ρ) (Taped π)} (hh : p.held = none)
      (records : p.engine.log.Records (lives.map (·.topology)))
      (accounts : p.engine.log.Accounts lives) :
      Chronicle lives p
  | unstarted {before : List Life} {held : Held (Taped π)} {p : Player (Tape ρ) (Taped π)}
      (hh : p.held = some held) (hr : held.running = none)
      (hn : held.pipeline.number = before.length)
      (records : p.engine.log.Records (before.map (·.topology) ++ [held.topology]))
      (accounts : p.engine.log.Accounts before)
      (untold : p.engine.log.callsOf held.pipeline.number = []) :
      Chronicle (before ++ [⟨held.topology, false, false⟩]) p
  | started {before : List Life} {held : Held (Taped π)} {running : Running}
      {p : Player (Tape ρ) (Taped π)}
      (hh : p.held = some held) (hr : held.running = some running)
      (hn : held.pipeline.number = before.length)
      (records : p.engine.log.Records (before.map (·.topology) ++ [held.topology]))
      (accounts : p.engine.log.Accounts before)
      (onAir : (p.loop held running).OnAir) (hm : running.feed.mode = held.topology.mode) :
      Chronicle (before ++ [⟨held.topology, true, false⟩]) p

namespace Chronicle

variable {lives : List Life} {p : Player (Tape ρ) (Taped π)}

omit [MediaEngine ρ π] in
theorem records (h : Chronicle lives p) : p.engine.log.Records (lives.map (·.topology)) := by
  cases h with
  | idle _ records => exact records
  | unstarted _ _ _ records => simpa using records
  | started _ _ _ records => simpa using records

omit [MediaEngine ρ π] in
/-- Held or not, every pipeline has received the calls of a course. -/
theorem accounts (h : Chronicle lives p) : p.engine.log.Accounts lives := by
  cases h with
  | idle _ _ accounts => exact accounts
  | unstarted _ _ hn _ accounts untold =>
      refine accounts.concat (c := ⟨none, none⟩) ⟨rfl, rfl, ?_, ?_⟩ (hn ▸ untold)
      · intro f hf
        cases hf
      · intro buffers last hs
        cases hs
  | @started _ held running _ _ hr hn _ accounts onAir hm =>
      obtain ⟨service, hcalls, hs⟩ := onAir
      refine accounts.concat (c := ⟨some service, none⟩) ⟨rfl, rfl, ?_, ?_⟩ ?_
      · intro f hf
        cases hf
      · rintro buffers last ⟨⟩ hmode
        exact hs.silent (hm.trans hmode)
      · rw [← hn]
        exact hcalls.trans (List.append_nil _).symm

/-- The chronicle goes on when a loop runs to rest. -/
theorem settle (h : Chronicle lives p) : Chronicle lives p.settle := by
  cases h with
  | idle hh records accounts =>
      rw [settle_of_held_none hh]
      exact .idle hh records accounts
  | unstarted hh hr hn records accounts untold =>
      rw [settle_of_unstarted hh hr]
      exact .unstarted hh hr hn records accounts untold
  | @started before held running _ hh hr hn records accounts onAir hm =>
      -- carried through the steps: on air, in the mode of the topology, no other pipeline called
      have step : ∀ {l l' : Loop (Tape ρ) (Taped π)}, Loop.Step l l' →
          (l.OnAir ∧ l.feed.mode = held.topology.mode ∧
            ∃ calls, (p.loop held running).deck.rig.Told l.deck.rig calls) →
          l'.OnAir ∧ l'.feed.mode = held.topology.mode ∧
            ∃ calls, (p.loop held running).deck.rig.Told l'.deck.rig calls := by
        intro l l' hstep ⟨ha, hf, calls, ht⟩
        obtain ⟨ha', calls', ht'⟩ := hstep.onAir ha
        exact ⟨ha', hstep.frame.2.2.trans hf, _, ht.trans ht'⟩
      obtain ⟨held', running', hh', hr', htop, ha', hf', calls, hn', hl'⟩ :=
        settle_loop step hh hr ⟨onAir, hm, [], .refl _⟩
      have hlog : p.settle.engine.log =
          p.engine.log ++ Log.entries held.pipeline.number calls := hl'
      rw [← htop]
      refine .started hh' hr' (hn'.trans hn) ?_ ?_ ha' (hf'.trans (congrArg _ htop.symm))
      · rw [hlog, htop]
        exact records.append_entries hn calls
      · rw [hlog]
        exact accounts.append_entries hn calls

omit [MediaEngine ρ π] in
/-- The chronicle is about the tape and the pipeline that is held, and about nothing else. -/
theorem of_eq (h : Chronicle lives p) {p' : Player (Tape ρ) (Taped π)} (hh' : p'.held = p.held)
    (hl : p'.engine.log = p.engine.log) : Chronicle lives p' := by
  cases h with
  | idle hh records accounts => exact .idle (hh'.trans hh) (hl ▸ records) (hl ▸ accounts)
  | unstarted hh hr hn records accounts untold =>
      exact .unstarted (hh'.trans hh) hr hn (hl ▸ records) (hl ▸ accounts) (hl ▸ untold)
  | started hh hr hn records accounts onAir hm =>
      obtain ⟨service, hcalls, hs⟩ := onAir
      have hcalls' := hl.symm ▸ hcalls
      exact .started (hh'.trans hh) hr hn (hl ▸ records) (hl ▸ accounts)
        ⟨service, hcalls', hs⟩ hm

theorem submit (h : Chronicle lives p) (frame : Frame) : Chronicle lives (p.submit frame) := by
  have hq : Chronicle lives { p with queue := (p.queue.push frame).2 } := h.of_eq rfl rfl
  exact hq.settle

theorem alter (h : Chronicle lives p) (change : ρ → ρ) :
    Chronicle lives (p.alter (Tape.alter change)) := by
  have he : Chronicle lives { p with engine := p.engine.alter change } := h.of_eq rfl rfl
  exact he.settle

/-- The end of a wait is a step of the loop like others, whatever its patience is. -/
theorem expire (h : Chronicle lives p) : Chronicle lives p.expire := by
  rw [Player.expire]
  split
  · have hbrief : Chronicle lives { p with patience := .brief } := h.of_eq rfl rfl
    exact hbrief.settle.of_eq rfl rfl
  · exact h

theorem post (h : Chronicle lives p) (event : Event) : Chronicle lives (p.post event).2 := by
  rw [Player.post.eq_def]
  split
  · exact h
  next held hh =>
    split
    · exact h
    · have hp : Chronicle lives
          { p with held := some { held with pending := held.pending ++ [event] } } := by
        cases h with
        | idle hh' => rw [hh] at hh'; cases hh'
        | @unstarted before _ _ hh' hr hn records accounts untold =>
            rw [hh] at hh'
            cases hh'
            exact @unstarted _ _ before { held with pending := held.pending ++ [event] } _ rfl
              hr hn records accounts untold
        | @started before _ running _ hh' hr hn records accounts onAir hm =>
            rw [hh] at hh'
            cases hh'
            exact @started _ _ before { held with pending := held.pending ++ [event] } running _
              rfl hr hn records accounts onAir hm
      exact hp.settle

/-- A build that fails leaves no trace on the tape; one that succeeds begins a new life. -/
theorem build (h : Chronicle lives p) (request : BuildRequest) :
    Chronicle (p.livesAfter lives (.action (.build request))) (p.build request).2 := by
  have hend := build_end p request
  rw [livesAfter]
  generalize p.build request = result at hend
  cases hend with
  | refused => cases Topology.build request <;> exact h
  | @failed cause engine _ _ he =>
      -- the pipeline that was held, if any, is given up without a word
      have hlog : engine.log = p.engine.log := Tape.log_of_attempt he
      have hidle : Chronicle lives
          ({ p with held := none, engine } : Player (Tape ρ) (Taped π)) := by
        refine .idle rfl ?_ ?_
        · exact hlog ▸ h.records
        · exact hlog ▸ h.accounts
      cases Topology.build request <;> exact hidle
  | @built t pipeline engine _ ht hi =>
      obtain ⟨hn, hlog⟩ := Tape.log_of_made hi
      have hmade : p.engine.log.made.length = lives.length := by
        rw [h.records.made, List.length_map]
      rw [ht]
      refine @unstarted _ _ lives ⟨t, pipeline, [], none⟩ _ rfl rfl (hn.trans hmade) ?_ ?_ ?_
      · refine ⟨?_, ?_, ?_⟩
        · rw [afterBuild, hlog, Log.made_append, h.records.made]
          rfl
        · rw [afterBuild, hlog]
          exact h.records.toNewest.append_made t
        · intro t' ht'
          rcases List.mem_append.1 ht' with hold | hnew
          · exact h.records.sound t' hold
          · rw [List.mem_singleton] at hnew
            subst hnew
            exact Topology.liveSource_of_build ht
      · rw [afterBuild, hlog]
        exact h.accounts.append_made t
      · rw [afterBuild, hlog, Log.callsOf_append, hn,
          h.records.toNewest.callsOf_eq_nil (Nat.le_refl _)]
        rfl

/-- A start that is not refused tells the pipeline to play. -/
theorem start (h : Chronicle lives p) :
    Chronicle (p.livesAfter lives (.action .start)) p.start.2 := by
  rw [livesAfter]
  cases h with
  | idle hh records accounts =>
      rw [start_of_held_none hh]
      exact .idle hh records accounts
  | started hh hr hn records accounts onAir hm =>
      rw [start_of_running hh hr]
      exact .started hh hr hn records accounts onAir hm
  | @unstarted before held _ hh hr hn records accounts untold =>
      rw [start_of_unstarted hh hr]
      simp only
      rw [List.modifyLast_concat]
      -- what has not been started has heard nothing, so that its service begins with the play
      obtain ⟨hp, hq, hf, -⟩ := p.firstLoop_frame held
      obtain ⟨played, ht, -⟩ := Loop.told_begin (p.unbegun held)
      have hlog : (p.firstLoop held).deck.rig.engine.log =
          p.engine.log ++ Log.entries held.pipeline.number [(.play, played)] := ht.2
      have onAir : (p.firstLoop held).OnAir := Loop.onAir_begin _ untold
      have hfirst : Chronicle (before ++ [⟨held.topology, true, false⟩])
          (p.withLoop held (p.firstLoop held)) := by
        refine @started _ _ before (heldAt held (p.firstLoop held)) _ _ (held_withLoop ..) rfl
          (ht.1.trans hn) ?_ ?_ ?_ ?_
        · rw [withLoop, hlog]
          exact records.append_entries hn _
        · rw [withLoop, hlog]
          exact accounts.append_entries hn _
        · rw [loop_withLoop hp hq]
          exact onAir
        · exact congrArg Feed.mode hf
      exact hfirst.settle

/-- A stop is the farewell to the pipeline that is held. -/
theorem stop (h : Chronicle lives p) :
    Chronicle (p.livesAfter lives (.action .stop)) p.stop := by
  rw [livesAfter]
  cases h with
  | idle hh records accounts =>
      rw [stop_of_held_none hh, hh]
      exact .idle rfl records accounts
  | @unstarted before held _ hh hr hn records accounts untold =>
      -- never played: the farewell is all that it hears
      obtain ⟨f, hf, hlog⟩ := log_stop hh
      rw [hr] at hf
      rw [hh, Option.isSome_some, if_pos rfl, List.modifyLast_concat]
      refine .idle (by rw [stop_of_held hh]) ?_ ?_
      · rw [hlog, List.map_append]
        exact records.append_entries hn _
      · rw [hlog]
        refine (accounts.append_entries hn _).concat (c := ⟨none, some f⟩) ⟨rfl, rfl, ?_, ?_⟩ ?_
        · rintro _ ⟨⟩
          exact hf
        · intro buffers last hs
          cases hs
        · rw [← hn, Log.callsOf_append, Log.callsOf_entries_self, untold]
          rfl
  | @started before held running _ hh hr hn records accounts onAir hm =>
      obtain ⟨f, hf, hlog⟩ := log_stop hh
      rw [hr] at hf
      obtain ⟨service, hcalls, hs⟩ := onAir
      rw [hh, Option.isSome_some, if_pos rfl, List.modifyLast_concat]
      refine .idle (by rw [stop_of_held hh]) ?_ ?_
      · rw [hlog, List.map_append]
        exact records.append_entries hn _
      · rw [hlog]
        refine (accounts.append_entries hn _).concat (c := ⟨some service, some f⟩)
          ⟨rfl, rfl, ?_, ?_⟩ ?_
        · rintro _ ⟨⟩
          exact hf
        · rintro buffers last ⟨⟩ hmode
          exact hs.silent (hm.trans hmode)
        · rw [← hn, Log.callsOf_append, Log.callsOf_entries_self]
          exact congrArg (· ++ f.calls) hcalls

omit [MediaEngine ρ π] in
theorem new (engine : ρ) (settings : PlayerSettings) :
    Chronicle [] (Player.new (Tape.fresh engine) settings : Player (Tape ρ) (Taped π)) := by
  refine .idle rfl ⟨rfl, Log.toNewest_nil, ?_⟩ ?_
  · intro t ht
    cases ht
  · intro k life hk
    cases hk

theorem take (h : Chronicle lives p) (turn : Turn ρ) :
    Chronicle (p.livesAfter lives turn.onTape) (p.take turn.onTape) := by
  cases turn with
  | expiry => exact h.expire
  | action a =>
      cases a with
      | build request => exact h.build request
      | start => exact h.start
      | stop => exact h.stop
      | submit frame => exact h.submit frame
      | post event => exact h.post event
      | alter change => exact h.alter change

theorem after (h : Chronicle lives p) (turns : List (Turn ρ)) :
    Chronicle (p.livesOf lives (turns.map Turn.onTape)) (p.after (turns.map Turn.onTape)) := by
  induction turns generalizing lives p with
  | nil => exact h
  | cons turn turns ih => exact ih (h.take turn)

end Chronicle

/-- The calls that the pipelines of a player receive over its whole life. On a tape the player does
the same as off it, and the tape says: a pipeline is made for every life, in this order; each
receives the calls of a course that goes as far as its life; without a live input it is only played,
disconnected and halted; the live input is never put on air by a call; a pipeline that was neither
started nor stopped is not called; and only the newest pipeline is. -/
theorem calls_of_run (engine : ρ) (settings : PlayerSettings) (turns : List (Turn ρ)) :
    let p : Player (Tape ρ) (Taped π) :=
      (new (Tape.fresh engine) settings).after (turns.map Turn.onTape)
    let lives : List Life := (new engine settings : Player ρ π).livesOf [] turns
    p.untaped = (new engine settings).after turns ∧
      p.engine.log.made = lives.map (·.topology) ∧
      (∀ (k : Nat) (life : Life), lives[k]? = some life →
        (∃ c : Course, c.Of life ∧ p.engine.log.callsOf k = c.calls) ∧
        (life.topology.mode = .fallbackOnly → ∀ heard ∈ p.engine.log.callsOf k,
          heard.1 = .play ∨ heard.1 = .disconnectDemand ∨ heard.1 = .halt) ∧
        (life.started = false → life.stopped = false → p.engine.log.callsOf k = [])) ∧
      (∀ (k : Nat) (accepted : Bool), (.select .live, accepted) ∉ p.engine.log.callsOf k) ∧
      p.engine.log.ToNewest := by
  intro p lives
  let q : Player (Tape ρ) (Taped π) := new (Tape.fresh engine) settings
  have hlives : lives = q.livesOf [] (turns.map Turn.onTape) := livesOf_untaped q [] turns
  have h : Chronicle lives p := hlives ▸ (Chronicle.new engine settings).after turns
  refine ⟨(after_untaped q turns).symm, h.records.made, ?_, ?_, h.records.toNewest⟩
  · intro k life hk
    obtain ⟨c, hc, hcalls⟩ := h.accounts k life hk
    refine ⟨⟨c, hc, hcalls⟩, ?_, ?_⟩
    · intro hm heard hmem
      have hsound : life.topology.liveSource?.isSome = (life.topology.mode == .live) :=
        h.records.sound _ (List.mem_map_of_mem (List.mem_of_getElem? hk))
      rw [hm] at hsound
      rw [hcalls] at hmem
      exact hc.heard_of_fallbackOnly hm hsound hmem
    · intro hstart hstop
      rw [hcalls]
      exact hc.calls_of_untouched hstart hstop
  · intro k accepted
    cases hk : lives[k]? with
    | some life =>
        obtain ⟨c, -, hcalls⟩ := h.accounts k life hk
        rw [hcalls]
        exact c.select_live_notMem accepted
    | none =>
        -- no pipeline has this number yet
        have hle : p.engine.log.made.length ≤ k := by
          rw [h.records.made, List.length_map]
          exact List.getElem?_eq_none_iff.1 hk
        rw [h.records.toNewest.callsOf_eq_nil hle]
        exact List.not_mem_nil

/-- A pipeline without a live input is given up unstarted. One with a live input serves a demand, a
pull that has been waiting, and no third one, whose wait ends; then it is stopped. -/
def trial : List (Turn Recorder) :=
  [.action (.build ⟨.fallbackOnly, .h264, 640, 480, 25, 1000, "udp://h:1", true⟩),
    .action (.build ⟨.live, .h264, 640, 480, 25, 1000, "udp://h:1", true⟩),
    .action .start, .action (.submit ⟨7, []⟩), .action (.post .needData),
    .action (.post .needData), .action (.submit ⟨9, []⟩),
    .action (.post .needData), .expiry, .action .stop]

theorem calls_of_trial :
    let p : Player (Tape Recorder) (Taped Nat) :=
      (new (Tape.fresh (.withFaults .none)) ⟨2000, 8⟩).after (trial.map Turn.onTape)
    let lives : List Life :=
      (new (.withFaults .none) ⟨2000, 8⟩ : Player Recorder Nat).livesOf [] trial
    ∃ first second : Life,
      (lives[0]? = some first ∧ first.topology.mode = .fallbackOnly ∧ first.started = false ∧
        first.stopped = false ∧ p.engine.log.callsOf 0 = []) ∧
      (lives[1]? = some second ∧ second.topology.mode = .live ∧ second.started = true ∧
        second.stopped = true ∧ (∃ c : Course, c.Of second ∧ p.engine.log.callsOf 1 = c.calls) ∧
        (.push ⟨2, []⟩, true) ∈ p.engine.log.callsOf 1 ∧
        (.select .fallback, true) ∈ p.engine.log.callsOf 1) := by
  intro p lives
  have hfirst : (lives[0]?.any fun life =>
      life.topology.mode == .fallbackOnly && !life.started && !life.stopped) = true := by
    decide +kernel
  have hsecond : (lives[1]?.any fun life =>
      life.topology.mode == .live && life.started && life.stopped) = true := by
    decide +kernel
  have hserved : (.push ⟨2, []⟩, true) ∈ p.engine.log.callsOf 1 := by decide +kernel
  have hover : (.select .fallback, true) ∈ p.engine.log.callsOf 1 := by decide +kernel
  obtain ⟨first, h0, hm⟩ := (Option.any_eq_true _ _).1 hfirst
  obtain ⟨second, h1, hm'⟩ := (Option.any_eq_true _ _).1 hsecond
  simp only [Bool.and_eq_true, beq_iff_eq, Bool.not_eq_true'] at hm hm'
  obtain ⟨⟨hm, hs⟩, ht⟩ := hm
  obtain ⟨⟨hm', hs'⟩, ht'⟩ := hm'
  obtain ⟨-, -, h, -, -⟩ := calls_of_run (.withFaults .none : Recorder) ⟨2000, 8⟩ trial
  exact ⟨first, second, ⟨h0, hm, hs, ht, (h 0 first h0).2.2 hs ht⟩,
    h1, hm', hs', ht', (h 1 second h1).1, hserved, hover⟩

end Player

end StandbyStream
