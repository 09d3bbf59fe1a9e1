import StandbyStream.Proofs.Player.Chronicle
import StandbyStream.Proofs.Station.Run

/-!
# What is pushed between two builds

The buffers that a pipeline is handed are frames that were submitted since it was built, in the
order of their submission and retimed from the first of them (`Player.Delivers`). The invariant is
`FrameQueue.Carries`: the frames pushed so far, followed by those still queued, are submitted frames
in order, and all of them as long as none was evicted and the queue has not been closed.
-/

namespace StandbyStream

/-! ## Buffers -/

/-- The buffers that frames become: their times count from the first, and none is below zero. -/
def retimed : List Frame → List Buffer
  | [] => []
  | first :: rest =>
    (first :: rest).map fun frame =>
      ⟨frame.timestamp.toNat - first.timestamp.toNat, frame.payload⟩

/-- The first buffer has time zero. -/
theorem pts_of_head_retimed {frames : List Frame} {buffer : Buffer}
    (h : (retimed frames).head? = some buffer) : buffer.pts = 0 := by
  cases frames with
  | nil => cases h
  | cons first rest =>
      cases h
      exact Nat.sub_self _

/-- A frame that follows others is timed from the first of them, else from itself. -/
theorem retimed_concat (frames : List Frame) (frame : Frame) :
    retimed (frames ++ [frame]) =
      retimed frames ++
        [⟨frame.timestamp.toNat -
          ((frames.head?.map (·.timestamp)).getD frame.timestamp).toNat, frame.payload⟩] := by
  cases frames with
  | nil => rfl
  | cons first rest => simp [retimed]

/-- The buffer that a call hands in. -/
def Call.buffer? : Call → Option Buffer
  | .push buffer => some buffer
  | _ => none

namespace Log

/-- The buffers that were handed in, taken or not. -/
def buffers (log : Log) : List Buffer :=
  log.filterMap fun
    | .made _ => none
    | .call _ call _ => call.buffer?

@[simp] theorem buffers_append (log log' : Log) :
    buffers (log ++ log') = log.buffers ++ log'.buffers :=
  List.filterMap_append

@[simp] theorem buffers_entries (pipeline : Nat) (calls : List (Call × Bool)) :
    (entries pipeline calls).buffers = calls.filterMap (·.1.buffer?) := by
  rw [buffers, entries, List.filterMap_map]
  rfl

end Log

/-- No buffer is handed in with a farewell. -/
theorem Farewell.buffers_calls (f : Farewell) : f.calls.filterMap (·.1.buffer?) = [] := by
  obtain ⟨_ | accepted, halted⟩ := f <;> rfl

variable {ρ π : Type}

theorem Rig.Told.buffers {rig rig' : Rig (Tape ρ) (Taped π)} {calls : List (Call × Bool)}
    (h : rig.Told rig' calls) :
    rig'.engine.log.buffers = rig.engine.log.buffers ++ calls.filterMap (·.1.buffer?) := by
  rw [h.2, Log.buffers_append, Log.buffers_entries]

/-! ## The queue -/

/-- Where the frames are that were submitted since the queue had evicted so many: some have been
pushed, those still queued come after them, and the others are lost. -/
structure FrameQueue.Carries (evicted : Nat) (submitted pushed : List Frame) (q : FrameQueue) :
    Prop where
  grown : evicted ≤ q.evicted
  ordered : (pushed ++ q.frames).Sublist submitted
  /-- Without evictions the pushed frames are the first ones. -/
  unbroken : q.evicted = evicted → pushed ++ q.frames <+: submitted
  /-- Without evictions an open queue holds all the others. -/
  complete : q.closed = false → q.evicted = evicted → pushed ++ q.frames = submitted
  emptied : q.closed = true → q.frames = []

namespace FrameQueue.Carries

variable {evicted : Nat} {submitted pushed : List Frame} {q : FrameQueue}

theorem reset (q : FrameQueue) : q.reset.Carries q.evicted [] [] :=
  ⟨Nat.le_refl _, .slnil, fun _ => List.prefix_rfl, fun _ _ => rfl, nofun⟩

/-- The oldest frame is pushed. -/
theorem pop (h : q.Carries evicted submitted pushed) (hopen : q.closed = false) {frame : Frame}
    {rest : List Frame} (hq : q.frames = frame :: rest) :
    ({ q with frames := rest } : FrameQueue).Carries evicted submitted (pushed ++ [frame]) := by
  have he : pushed ++ [frame] ++ rest = pushed ++ q.frames := by
    rw [hq, List.append_assoc]
    rfl
  refine ⟨h.grown, ?_, ?_, ?_, ?_⟩
  · exact he ▸ h.ordered
  · exact fun hev => he ▸ h.unbroken hev
  · exact fun hc hev => he ▸ h.complete hc hev
  · exact fun hc => absurd (hopen.symm.trans hc) Bool.false_ne_true

/-- A frame is submitted. -/
theorem push (h : q.Carries evicted submitted pushed) (frame : Frame) :
    (q.push frame).2.Carries evicted (submitted ++ [frame]) pushed := by
  rw [FrameQueue.push.eq_def]
  have hlater : submitted <+: submitted ++ [frame] := List.prefix_append _ _
  split
  · next hc =>
      -- a closed queue discards the frame, which comes after all that were pushed
      refine ⟨h.grown, h.ordered.trans hlater.sublist, ?_, ?_, h.emptied⟩
      · exact fun hev => (h.unbroken hev).trans hlater
      · exact fun hopen => absurd (hopen.symm.trans hc) Bool.false_ne_true
  · next hc =>
      have hopen : q.closed = false := by simpa using hc
      have hkept : (pushed ++ (q.frames.drop q.surplus ++ [frame])).Sublist
          (submitted ++ [frame]) := by
        rw [← List.append_assoc]
        exact (((List.drop_sublist _ _).append_left _).trans h.ordered).append_right _
      have hall : q.evicted + q.surplus = evicted →
          pushed ++ (q.frames.drop q.surplus ++ [frame]) = submitted ++ [frame] := by
        intro hev
        -- the counter only grows, so nothing had to go for this frame either
        have hgrown := h.grown
        have hs : q.surplus = 0 := by omega
        have hev' : q.evicted = evicted := by omega
        rw [hs, List.drop_zero, ← List.append_assoc, h.complete hopen hev']
      refine ⟨Nat.le_add_right_of_le h.grown, hkept, ?_, ?_, ?_⟩
      · exact fun hev => (hall hev) ▸ List.prefix_rfl
      · exact fun _ hev => hall hev
      · exact fun hc' => absurd hc' hc

/-- What is still queued is lost. -/
theorem close (h : q.Carries evicted submitted pushed) :
    q.close.Carries evicted submitted pushed := by
  have hfirst : pushed ++ [] <+: pushed ++ q.frames := by
    rw [List.append_nil]
    exact List.prefix_append _ _
  refine ⟨h.grown, hfirst.sublist.trans h.ordered, ?_, nofun, fun _ => rfl⟩
  exact fun hev => hfirst.trans (h.unbroken hev)

end FrameQueue.Carries

/-! ## The loop -/

/-- The time origin of a feed that has taken frames is the timestamp of the first. -/
def Feed.TimedBy (pushed : List Frame) (feed : Feed) : Prop :=
  feed.epoch = pushed.head?.map (·.timestamp)

namespace Feed.TimedBy

variable {pushed : List Frame} {feed : Feed}

theorem timedFrom (h : feed.TimedBy pushed) (frame : Frame) :
    (feed.timedFrom frame).TimedBy (pushed ++ [frame]) := by
  rw [TimedBy] at h
  rw [TimedBy, Feed.timedFrom, h]
  cases pushed <;> rfl

theorem retimed_concat (h : feed.TimedBy pushed) (frame : Frame) :
    retimed (pushed ++ [frame]) = retimed pushed ++ [feed.stamp frame] := by
  rw [TimedBy] at h
  rw [StandbyStream.retimed_concat, Feed.stamp, h]

end Feed.TimedBy

/-- The loop has pushed frames that were submitted since the tape showed the buffers `past`. -/
def Loop.Feeds (past : List Buffer) (evicted : Nat) (submitted : List Frame)
    (l : Loop (Tape ρ) (Taped π)) : Prop :=
  ∃ pushed : List Frame,
    l.deck.rig.engine.log.buffers = past ++ retimed pushed ∧
      l.deck.queue.Carries evicted submitted pushed ∧ l.feed.TimedBy pushed

variable [MediaEngine ρ π]

namespace Loop

variable {past : List Buffer} {evicted : Nat} {submitted : List Frame}
  {l l' : Loop (Tape ρ) (Taped π)}

theorem Step.feeds (h : Step l l') (hf : l.Feeds past evicted submitted) :
    l'.Feeds past evicted submitted := by
  obtain ⟨pushed, hlog, hq, ht⟩ := hf
  cases h with
  | @delivered frame rest rig _ live hopen hr hpush =>
      refine ⟨pushed ++ [frame], ?_, hq.pop hopen hr, ht.timedFrom frame⟩
      rw [ht.retimed_concat, ← List.append_assoc, ← hlog]
      exact (Rig.told_of_push hpush).buffers
  | @refused frame rest fault rig _ live hopen hr hpush =>
      refine ⟨pushed ++ [frame], ?_, hq.pop hopen hr, ht.timedFrom frame⟩
      rw [ht.retimed_concat, ← List.append_assoc, ← hlog]
      exact (Rig.told_of_push hpush).buffers
  | switched _ live hopen hr hp hselect =>
      refine ⟨pushed, ?_, hq, ht⟩
      rw [← hlog]
      exact (Rig.told_of_select hselect).buffers.trans (List.append_nil _)
  | stuck _ live hopen hr hp hselect =>
      refine ⟨pushed, ?_, hq, ht⟩
      rw [← hlog]
      exact (Rig.told_of_select hselect).buffers.trans (List.append_nil _)
  | demanded _ hd =>
      refine ⟨pushed, ?_, hq, ht⟩
      rw [← hlog]
      exact (Rig.told_of_raiseDemand hd).buffers.trans (List.append_nil _)
  | _ => exact ⟨pushed, hlog, hq, ht⟩

/-- Steps evict nothing. -/
theorem Step.evicted_eq (h : Step l l') : l'.deck.queue.evicted = l.deck.queue.evicted := by
  cases h <;> rfl

end Loop

/-! ## The player -/

namespace Player

/-- The frames that are submitted in turns. -/
def submitted (turns : List (Turn ρ)) : List Frame :=
  turns.filterMap Turn.frame?

theorem submitted_append (turns turns' : List (Turn ρ)) :
    submitted (turns ++ turns') = submitted turns ++ submitted turns' :=
  List.filterMap_append

/-- The action is a build and succeeds. -/
def rebuiltBy (p : Player ρ π) : Action ρ → Bool
  | .build request => (p.build request).1.isOk
  | _ => false

/-- The turn is a build and succeeds. -/
def renews (p : Player ρ π) : Turn ρ → Bool
  | .action a => p.rebuiltBy a
  | .expiry => false

/-- Some build among turns succeeds. -/
def rebuilt (p : Player ρ π) : List (Turn ρ) → Bool
  | [] => false
  | turn :: turns => p.renews turn || (p.take turn).rebuilt turns

/-- The held pipeline has been handed these frames, if any more can follow. -/
def TimedBy (pushed : List Frame) (p : Player (Tape ρ) (Taped π)) : Prop :=
  ∀ held, p.held = some held →
    match held.running with
    | none => pushed = []
    | some running => running.feed.TimedBy pushed

/-- The player has pushed frames that were submitted since the tape showed the buffers `past`. -/
def Feeds (past : List Buffer) (evicted : Nat) (submitted : List Frame)
    (p : Player (Tape ρ) (Taped π)) : Prop :=
  ∃ pushed : List Frame,
    p.engine.log.buffers = past ++ retimed pushed ∧
      p.queue.Carries evicted submitted pushed ∧ p.TimedBy pushed

namespace Feeds

variable {past : List Buffer} {evicted : Nat} {submitted : List Frame}
  {p : Player (Tape ρ) (Taped π)}

/-- What is left to a loop keeps what has been pushed. -/
theorem durable :
    Durable fun p : Player (Tape ρ) (Taped π) => p.Feeds past evicted submitted where
  patience := fun h _ => h
  pending := by
    rintro p held hh ⟨pushed, hlog, hq, ht⟩ pending
    refine ⟨pushed, hlog, hq, ?_⟩
    rintro _ ⟨⟩
    exact ht held hh
  begin := by
    rintro p held hh hr ⟨pushed, hlog, hq, ht⟩
    -- what has not been started has been handed nothing, so the feed is timed from nothing
    have hnone := ht held hh
    rw [hr] at hnone
    subst hnone
    obtain ⟨-, -, hfeed, hqueue⟩ := p.firstLoop_frame held
    obtain ⟨played, htold, -⟩ := Loop.told_begin (p.unbegun held)
    refine ⟨[], ?_, ?_, ?_⟩
    · rw [← hlog]
      exact htold.buffers.trans (List.append_nil _)
    · change (p.firstLoop held).deck.queue.Carries evicted submitted []
      rw [hqueue]
      exact hq
    · rintro _ ⟨⟩
      change (p.firstLoop held).feed.TimedBy []
      rw [hfeed]
      rfl
  step := by
    rintro p held running l hh hr hstep ⟨pushed, hlog, hq, ht⟩
    have htimed := ht held hh
    rw [hr] at htimed
    obtain ⟨pushed', hlog', hq', ht'⟩ := hstep.feeds ⟨pushed, hlog, hq, htimed⟩
    refine ⟨pushed', hlog', hq', ?_⟩
    rintro _ ⟨⟩
    exact ht'

theorem submit (h : p.Feeds past evicted submitted) (frame : Frame) :
    (p.submit frame).Feeds past evicted (submitted ++ [frame]) := by
  obtain ⟨pushed, hlog, hq, ht⟩ := h
  exact durable.submit ⟨pushed, hlog, hq.push frame, ht⟩

/-- A build that fails hands nothing in. -/
theorem build (h : p.Feeds past evicted submitted) {request : BuildRequest}
    (hb : (p.build request).1.isOk = false) :
    (p.build request).2.Feeds past evicted submitted := by
  have hend := build_end p request
  generalize p.build request = result at hend hb
  cases hend with
  | refused => exact h
  | @failed cause engine _ _ he =>
      have hlog : engine.log = p.engine.log := Tape.log_of_attempt he
      obtain ⟨pushed, hpast, hq, -⟩ := h
      exact ⟨pushed, by rw [hlog, hpast], hq, nofun⟩
  | built => cases hb

/-- A build that succeeds begins anew. -/
theorem of_build {request : BuildRequest} (hb : (p.build request).1 = .ok ()) :
    (p.build request).2.Feeds (p.build request).2.engine.log.buffers
      (p.build request).2.queue.evicted [] := by
  have hend := build_end p request
  generalize p.build request = result at hend hb
  cases hend with
  | refused => cases hb
  | failed => cases hb
  | @built t pipeline engine _ ht hi =>
      refine ⟨[], (List.append_nil _).symm, .reset p.queue, ?_⟩
      rintro _ ⟨⟩
      rfl

/-- A stop hands nothing in. -/
theorem stop (h : p.Feeds past evicted submitted) : p.stop.Feeds past evicted submitted := by
  obtain ⟨pushed, hlog, hq, ht⟩ := h
  cases hh : p.held with
  | none =>
      rw [stop_of_held_none hh]
      exact ⟨pushed, hlog, hq, ht⟩
  | some held =>
      rw [stop_of_held hh]
      obtain ⟨f, -, hdown⟩ := p.log_askedToQuit held
      -- the invariant up to where the loop runs out, with the queue closed
      have hasked : (p.askedToQuit held).Feeds past evicted submitted := by
        refine ⟨pushed, ?_, hq.close, ?_⟩
        · rw [← hlog]
          refine (congrArg Log.buffers hdown).trans ?_
          rw [Log.buffers_append, Log.buffers_entries, f.buffers_calls, List.append_nil]
        · rintro _ ⟨⟩
          exact ht held hh
      obtain ⟨pushed', hlog', hq', -⟩ := durable.settle hasked
      exact ⟨pushed', hlog', hq', nofun⟩

theorem take (h : p.Feeds past evicted submitted) {turn : Turn ρ}
    (hn : p.renews turn.onTape = false) :
    (p.take turn.onTape).Feeds past evicted (submitted ++ Player.submitted [turn]) := by
  have hsame : submitted ++ [] = submitted := List.append_nil submitted
  cases turn with
  | expiry => exact hsame.symm ▸ durable.expire h
  | action a =>
      cases a with
      | submit frame => exact h.submit frame
      | build request => exact hsame.symm ▸ h.build hn
      | start => exact hsame.symm ▸ durable.start h
      | stop => exact hsame.symm ▸ h.stop
      | post event => exact hsame.symm ▸ durable.post h event
      | alter change =>
          -- the tape and the queue are not touched by what changes the engine
          have he : ({ p with engine := Tape.alter change p.engine } : Player (Tape ρ)
              (Taped π)).Feeds past evicted submitted := h
          exact hsame.symm ▸ durable.alter he

theorem after (h : p.Feeds past evicted submitted) (turns : List (Turn ρ))
    (hn : p.rebuilt (turns.map Turn.onTape) = false) :
    (p.after (turns.map Turn.onTape)).Feeds past evicted
      (submitted ++ Player.submitted turns) := by
  induction turns generalizing p submitted with
  | nil => exact (List.append_nil submitted).symm ▸ h
  | cons turn turns ih =>
      -- the frame of the first turn comes before those of the rest
      rw [List.map_cons, rebuilt, Bool.or_eq_false_iff] at hn
      have hrest := ih (h.take hn.1) hn.2
      rw [List.append_assoc, ← submitted_append] at hrest
      exact hrest

end Feeds

/-- A loop evicts nothing. -/
theorem durable_evicted (n : Nat) :
    Durable fun p : Player (Tape ρ) (Taped π) => p.queue.evicted = n where
  patience := fun h _ => h
  pending := fun _ h _ => h
  begin := by
    intro p held _ _ h
    obtain ⟨-, -, -, hqueue⟩ := p.firstLoop_frame held
    exact (congrArg FrameQueue.evicted hqueue).trans h
  step := fun _ _ hstep h => hstep.evicted_eq.trans h

/-- What a player hands to its pipeline in turns in which no build succeeds: frames submitted in
these turns, in the order of their submission, retimed from the first of them; without evictions
they are the first ones submitted, and those that follow are all queued unless the queue is closed.
On a tape the player does the same as off it. -/
def Delivers (p : Player (Tape ρ) (Taped π)) (turns : List (Turn ρ)) : Prop :=
  p.rebuilt (turns.map Turn.onTape) = false →
    let q := p.after (turns.map Turn.onTape)
    q.untaped = p.untaped.after turns ∧
      ∃ frames : List Frame,
        q.engine.log.buffers = p.engine.log.buffers ++ retimed frames ∧
        frames.Sublist (submitted turns) ∧
        (q.queue.evicted = p.queue.evicted → frames <+: submitted turns) ∧
        (q.queue.evicted = p.queue.evicted → q.queue.closed = false →
          frames ++ q.queue.frames = submitted turns) ∧
        ∀ buffer, (retimed frames).head? = some buffer → buffer.pts = 0

namespace Feeds

variable {past : List Buffer} {evicted : Nat} {p : Player (Tape ρ) (Taped π)}

omit [MediaEngine ρ π] in
/-- Where no frame has been submitted, none has been pushed. -/
theorem rebase (h : p.Feeds past evicted []) (he : p.queue.evicted = evicted) :
    p.Feeds p.engine.log.buffers p.queue.evicted [] := by
  obtain ⟨pushed, -, hq, ht⟩ := h
  have hnone : pushed ++ p.queue.frames = [] := List.sublist_nil.1 hq.ordered
  obtain ⟨rfl, -⟩ := List.append_eq_nil_iff.1 hnone
  exact ⟨[], (List.append_nil _).symm, he.symm ▸ hq, ht⟩

theorem delivers (h : p.Feeds p.engine.log.buffers p.queue.evicted [])
    (turns : List (Turn ρ)) : p.Delivers turns := by
  intro hn
  obtain ⟨frames, hlog, hq, -⟩ := h.after turns hn
  rw [List.nil_append] at hq
  have hfirst : frames <+: frames ++ (p.after (turns.map Turn.onTape)).queue.frames :=
    List.prefix_append _ _
  refine ⟨(after_untaped p turns).symm, frames, hlog, ?_, ?_, ?_, fun _ => pts_of_head_retimed⟩
  · exact hfirst.sublist.trans hq.ordered
  · exact fun hev => hfirst.trans (hq.unbroken hev)
  · exact fun hev hopen => hq.complete hopen hev

end Feeds

/-- Once a pipeline has been built, by request or when the station starts the stream again, the
player delivers to it what is submitted from then on. -/
theorem delivers_of_built :
    (∀ (p : Player (Tape ρ) (Taped π)) (request : BuildRequest) (turns : List (Turn ρ)),
      (p.build request).1 = .ok () → (p.build request).2.Delivers turns) ∧
    ∀ (s : Station (Tape ρ) (Taped π)) (turns : List (Turn ρ)),
      s.supervise.1 = .ok .restarted → s.supervise.2.player.Delivers turns := by
  refine ⟨fun p request turns hb => (Feeds.of_build hb).delivers turns, ?_⟩
  intro s turns hs
  have hend := s.supervision_end
  generalize s.supervise = result at hend hs
  cases hend with
  | idle => cases hs
  | failed => cases hs
  | @restarted player _ hb =>
      have hbuilt : player.Feeds player.engine.log.buffers player.queue.evicted [] := by
        have h := Feeds.of_build (congrArg Prod.fst hb)
        rw [hb] at h
        exact h
      have hevicted := (durable_evicted player.queue.evicted).start rfl
      exact ((Feeds.durable.start hbuilt).rebase hevicted).delivers turns

/-- A station that has not streamed yet, on a tape. -/
def trialStation : Station (Tape Recorder) (Taped Nat) :=
  .new (Tape.fresh (.withFaults .none))
    ⟨⟨.h264, 640, 480, 25, 1000, "udp://h:1"⟩, true, true, ⟨2000, 4⟩⟩

/-- Frames whose timestamps are out of order. Three are queued before they are asked for, one comes
while a pull waits for it, and none comes in time for the last pull. -/
def trialFrames : List (Turn Recorder) :=
  [.action .start, .action (.submit ⟨9, [1]⟩), .action (.submit ⟨12, [2]⟩),
    .action (.submit ⟨7, [3]⟩), .action (.post .needData), .action (.post .needData),
    .action (.post .needData), .action (.post .needData), .action (.submit ⟨20, [4]⟩),
    .action (.post .needData), .expiry]

theorem delivers_of_trial :
    let built := trialStation.player.build (trialStation.request trialStation.parameters)
    let s := (trialStation.start.2.act (.post .endOfStream)).supervise
    (built.1 = .ok () ∧ built.2.rebuilt (trialFrames.map Turn.onTape) = false ∧
      ∃ frames, (built.2.after (trialFrames.map Turn.onTape)).engine.log.buffers =
        built.2.engine.log.buffers ++ retimed frames ∧ frames <+: submitted trialFrames ∧
        frames ++ (built.2.after (trialFrames.map Turn.onTape)).queue.frames =
          submitted trialFrames) ∧
    (s.1 = .ok .restarted ∧ s.2.player.rebuilt (trialFrames.map Turn.onTape) = false ∧
      ∃ frames, (s.2.player.after (trialFrames.map Turn.onTape)).engine.log.buffers =
        s.2.player.engine.log.buffers ++ retimed frames ∧ frames <+: submitted trialFrames) := by
  intro built s
  have hbuilt : built.1 = .ok () := by rfl
  have hrestarted : s.1 = .ok .restarted := by rfl
  have hn : built.2.rebuilt (trialFrames.map Turn.onTape) = false := by decide +kernel
  have hn' : s.2.player.rebuilt (trialFrames.map Turn.onTape) = false := by decide +kernel
  have h : built.2.Delivers trialFrames := delivers_of_built.1 _ _ trialFrames hbuilt
  have h' : s.2.player.Delivers trialFrames := delivers_of_built.2 _ trialFrames hrestarted
  obtain ⟨-, frames, hlog, -, hprefix, hall, -⟩ := h hn
  obtain ⟨-, frames', hlog', -, hprefix', -⟩ := h' hn'
  have hev : (built.2.after (trialFrames.map Turn.onTape)).queue.evicted =
      built.2.queue.evicted := by decide +kernel
  have hev' : (s.2.player.after (trialFrames.map Turn.onTape)).queue.evicted =
      s.2.player.queue.evicted := by decide +kernel
  have hopen : (built.2.after (trialFrames.map Turn.onTape)).queue.closed = false := by
    decide +kernel
  exact ⟨⟨hbuilt, hn, frames, hlog, hprefix hev, hall hev hopen⟩,
    hrestarted, hn', frames', hlog', hprefix' hev'⟩

end Player

end StandbyStream
