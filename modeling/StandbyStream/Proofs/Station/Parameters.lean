import StandbyStream.Proofs.Player.Agreement
import StandbyStream.Proofs.Station.Turn

/-!
# The parameters at hand

The parameters of a station are those that it began with, with the overrides of the accepted starts
in their place. They are what streams: the pipeline that is held was made from the topology that is
built for them (`parameters_of_run`). Parameters that are refused, or for which no pipeline can be
built, are not kept, and a restart takes the ones at hand.
-/

namespace StandbyStream

variable {ρ π : Type}

namespace Player

/-- The pipeline that is held, if any, plays the topology of the request. -/
def Plays (request : BuildRequest) (p : Player ρ π) : Prop :=
  ∀ held, p.held = some held → Topology.build request = .ok held.topology

namespace Plays

variable {request : BuildRequest} {p : Player ρ π}

theorem of_held_none (h : p.held = none) : p.Plays request := by
  intro held hh
  cases h.symm.trans hh

variable [MediaEngine ρ π]

/-- Nothing that a loop does changes the topology. -/
theorem durable (request : BuildRequest) : Durable (Plays request : Player ρ π → Prop) where
  patience := fun h _ => h
  pending := by
    intro p held hh h pending
    rintro _ ⟨⟩
    exact h held hh
  begin := by
    intro p held hh _ h
    rintro _ ⟨⟩
    exact h held hh
  step := by
    intro p held running l hh _ _ h
    rintro _ ⟨⟩
    exact h held hh

/-- A build that fails makes nothing play that did not play before. -/
theorem of_failed (h : p.Plays request) {other : BuildRequest} {cause : BuildFault}
    {p' : Player ρ π} (hb : p.build other = (.error cause, p')) : p'.Plays request := by
  have hend := build_end p other
  rw [hb] at hend
  cases hend with
  | refused => exact h
  | failed => exact of_held_none rfl

/-- What has been built plays, and goes on to do so once it is started. -/
theorem start_of_built {p' : Player ρ π} (hb : p.build request = (.ok (), p')) :
    p'.start.2.Plays request := by
  have hend := build_end p request
  rw [hb] at hend
  cases hend with
  | @built t pipeline engine _ ht _ =>
      have hbuilt : (p.afterBuild t pipeline engine).Plays request := by
        rintro _ ⟨⟩
        exact ht
      exact (durable request).start hbuilt

end Plays

end Player

namespace Station

/-- The parameters of a station that began like this, after starts with these overrides have been
accepted; and the pipeline that is held plays them. -/
structure Reports (fresh : Station ρ π) (started : Bool) (overrides : List Overrides)
    (s : Station ρ π) : Prop where
  liveInput : s.liveInput = fresh.liveInput
  tlsValidation : s.tlsValidation = fresh.tlsValidation
  parameters : s.parameters = overrides.foldl Parameters.override fresh.parameters
  valid : started = true → s.parameters.check = .ok ()
  plays : s.player.Plays (fresh.request s.parameters)

namespace Reports

variable {fresh s s' : Station ρ π} {started : Bool} {overrides : List Overrides}

/-- What is requested for parameters depends on nothing that changes. -/
theorem request_eq (h : Reports fresh started overrides s) (p : Parameters) :
    s.request p = fresh.request p := by
  rw [request, request, h.liveInput, h.tlsValidation]

theorem withPlayer (h : Reports fresh started overrides s) {player : Player ρ π}
    (hp : player.Plays (fresh.request s.parameters)) :
    Reports fresh started overrides { s with player } :=
  ⟨h.liveInput, h.tlsValidation, h.parameters, h.valid, hp⟩

variable [MediaEngine ρ π]

/-- A stream that has been built reports the parameters that it was built for. -/
theorem afterStart (h : Reports fresh started overrides s) {started' : Bool}
    {later : List Overrides} {p : Parameters} {player other : Player ρ π}
    (hp : p = later.foldl Parameters.override s.parameters)
    (valid : started' = true → p.check = .ok ())
    (hb : other.build (s.request p) = (.ok (), player)) :
    Reports fresh started' (overrides ++ later) (s.afterStart player p) := by
  rw [h.request_eq] at hb
  refine ⟨h.liveInput, h.tlsValidation, ?_, valid, .start_of_built hb⟩
  rw [List.foldl_append, ← h.parameters]
  exact hp

/-- An accepted start adds its overrides; nothing else that a turn does changes the parameters. -/
theorem step (h : Reports fresh started overrides s) {turn : Turn ρ}
    {accepted : Option (List Overrides)} (hend : TurnEnd s turn accepted s') :
    Reports fresh (started || accepted.isSome) (overrides ++ accepted.getD []) s' := by
  -- where no start is accepted, only what the player plays has to be looked at
  have unaccepted : ∀ {s' : Station ρ π}, Reports fresh started overrides s' →
      Reports fresh (started || false) (overrides ++ []) s' := by
    intro s' h'
    rw [Bool.or_false, List.append_nil]
    exact h'
  cases hend with
  | relayed ht =>
      apply unaccepted
      apply h.withPlayer
      exact relayed_of_durable (Player.Plays.durable _) (fun _ hp => hp) (fun _ hp => hp) ht h.plays
  | idle => exact unaccepted h
  | failed hb =>
      apply unaccepted
      apply h.withPlayer
      exact h.plays.of_failed hb
  | started hp valid hb => exact h.afterStart hp (fun _ => valid) hb
  | stopped =>
      apply unaccepted
      exact ⟨h.liveInput, h.tlsValidation, h.parameters, h.valid, .of_held_none s.player.held_stop⟩
  | lost _ hb =>
      apply unaccepted
      apply h.withPlayer
      exact (Player.Plays.of_held_none s.player.held_stop).of_failed hb
  | restarted _ hb =>
      refine h.afterStart rfl ?_ hb
      intro hs
      rw [Option.isSome_none, Bool.or_false] at hs
      exact h.valid hs

theorem after (h : Reports fresh started overrides s) (turns : List (Turn ρ)) :
    Reports fresh (started || s.startsIn turns) (overrides ++ s.overridesIn turns)
      (s.after turns) := by
  induction turns generalizing s started overrides with
  | nil =>
      rw [startsIn, overridesIn, Bool.or_false, List.append_nil]
      exact h
  | cons turn turns ih =>
      have hrest := ih (h.step (s.turn_end turn))
      rw [Bool.or_assoc, List.append_assoc] at hrest
      exact hrest

omit [MediaEngine ρ π] in
theorem new (engine : ρ) (settings : StationSettings) :
    Reports (Station.new engine settings : Station ρ π) false [] (.new engine settings) :=
  ⟨rfl, rfl, rfl, nofun, .of_held_none rfl⟩

end Reports

variable [MediaEngine ρ π]

/-- What the player of a station tells agrees with the tape. -/
theorem agrees_after (engine : ρ) (settings : StationSettings) (turns : List (Turn ρ)) :
    ∃ ledger, ((new (Tape.fresh engine) settings : Station (Tape ρ) (Taped π)).after
      (turns.map Turn.onTape)).player.Agrees ledger := by
  obtain ⟨turns', hplayer⟩ :=
    (new (Tape.fresh engine) settings : Station (Tape ρ) (Taped π)).player_after turns
  rw [hplayer]
  exact ⟨_, (Player.Agrees.new engine settings.player).after turns'⟩

/-- The parameters of a station, whatever it goes through, on a tape as off it. They are those that
it began with, with the overrides of the commands to start that were accepted in their place, the
last ones on top; and they are in bounds once a start has been accepted. As long as a pipeline is
held, it was made for the topology that is built for these parameters, with a live input exactly if
the station has one. -/
theorem parameters_of_run (engine : ρ) (settings : StationSettings) (turns : List (Turn ρ)) :
    let fresh : Station (Tape ρ) (Taped π) := new (Tape.fresh engine) settings
    let s := fresh.after (turns.map Turn.onTape)
    s.untaped = (new engine settings).after turns ∧
      s.parameters =
        (fresh.overridesIn (turns.map Turn.onTape)).foldl Parameters.override
          settings.parameters ∧
      (fresh.startsIn (turns.map Turn.onTape) = true → s.parameters.check = .ok ()) ∧
      ∀ held, s.player.held = some held →
        Topology.build (fresh.request s.parameters) = .ok held.topology ∧
          held.topology.mode = (if settings.liveInput then .live else .fallbackOnly) ∧
          s.player.engine.log.made[held.pipeline.number]? = some held.topology := by
  intro fresh s
  have h : Reports fresh (fresh.startsIn (turns.map Turn.onTape))
      (fresh.overridesIn (turns.map Turn.onTape)) s :=
    (Reports.new (Tape.fresh engine) settings).after _
  refine ⟨(fresh.after_untaped turns).symm, h.parameters, h.valid, ?_⟩
  intro held hh
  have hplays : Topology.build (fresh.request s.parameters) = .ok held.topology := h.plays held hh
  refine ⟨hplays, Topology.mode_of_build hplays, ?_⟩
  -- the pipeline that is held is the newest one on the tape
  obtain ⟨ledger, hagrees⟩ := agrees_after engine settings turns
  have hk : s.player.Keeps held := hagrees.held held hh
  have hlast := hk.topology
  rw [List.getLast?_eq_getElem?, ← hk.number] at hlast
  exact hlast

/-- The bytes of the command to start with a width of 320. -/
def evenWidthMessage : Bytes :=
  [123, 34, 67, 111, 109, 109, 97, 110, 100, 34, 58, 34, 115, 116, 97, 114, 116, 34, 44, 34, 87,
    105, 100, 116, 104, 34, 58, 51, 50, 48, 125]

/-- The bytes of the command to start with a width of 321, which is odd. -/
def oddWidthMessage : Bytes :=
  [123, 34, 67, 111, 109, 109, 97, 110, 100, 34, 58, 34, 115, 116, 97, 114, 116, 34, 44, 34, 87,
    105, 100, 116, 104, 34, 58, 51, 50, 49, 125]

/-- Of two starts one is accepted, and the stream is started again once it has ended. -/
def narrowed : List (Turn Recorder) :=
  [.action (.command evenWidthMessage), .action (.command oddWidthMessage),
    .action (.post .endOfStream), .action .supervise]

theorem parameters_of_narrowed :
    let fresh : Station (Tape Recorder) (Taped Nat) :=
      new (Tape.fresh (.withFaults .none))
        ⟨⟨.h264, 640, 480, 25, 1000, "udp://h:1"⟩, true, true, ⟨0, 4⟩⟩
    let s := fresh.after (narrowed.map Turn.onTape)
    (s.parameters = ⟨.h264, 320, 480, 25, 1000, "udp://h:1"⟩ ∧ s.parameters.check = .ok ()) ∧
      ∃ held, s.player.held = some held ∧
        Topology.build (fresh.request s.parameters) = .ok held.topology ∧
        held.topology.mode = .live ∧
        s.player.engine.log.made[held.pipeline.number]? = some held.topology := by
  intro fresh s
  obtain ⟨-, hparameters, hvalid, hplays⟩ := parameters_of_run (.withFaults .none : Recorder)
    ⟨⟨.h264, 640, 480, 25, 1000, "udp://h:1"⟩, true, true, ⟨0, 4⟩⟩ narrowed
  have hstarted : fresh.startsIn (narrowed.map Turn.onTape) = true := by decide +kernel
  have hheld : s.player.held.isSome = true := by decide +kernel
  obtain ⟨held, hh⟩ := Option.isSome_iff_exists.1 hheld
  refine ⟨⟨hparameters.trans ?_, hvalid hstarted⟩, held, hh, hplays held hh⟩
  decide +kernel

end Station

end StandbyStream
