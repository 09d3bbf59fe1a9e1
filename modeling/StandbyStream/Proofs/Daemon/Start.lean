import StandbyStream.Daemon
import StandbyStream.Proofs.Config.Check
import StandbyStream.Proofs.Station.Acceptance

/-!
# A configuration that loads can be started, if there is room

The settings of a station are checked where they are loaded, and again on the way to a pipeline: as
parameters, as a request for a graph, as stages that an engine has to make. Nothing that has been
loaded fails there, so that a daemon that starts its stream without being told to comes into service
with a stream. What is not checked is how much memory the queue takes up: the station can be made
exactly if there is room for it (`start_of_load`), and a capacity that loads may be too large for
any machine (`not_start_of_vast`).
-/

namespace StandbyStream

/-! ## Room -/

theorem Memory.reserve_eq_ok {memory : Memory} {bytes : Nat} :
    memory.reserve bytes = .ok () ↔ memory.Gives bytes := by
  rw [reserve, Gives]
  split
  · exact iff_of_false nofun (by omega)
  · split
    · exact iff_of_false nofun (by omega)
    · exact iff_of_true rfl (by omega)

/-- What is made with a piece of memory is made exactly if the piece is to be had. -/
theorem Memory.map_reserve_eq_ok {α : Type} {memory : Memory} {bytes : Nat} {made result : α} :
    (memory.reserve bytes).map (fun () => made) = .ok result ↔
      memory.Gives bytes ∧ result = made := by
  rw [← reserve_eq_ok]
  cases memory.reserve bytes with
  | error shortage => exact iff_of_false nofun nofun
  | ok _ => simp [Except.map, eq_comm]

/-! ## Stations -/

namespace Station

/-- A station is made exactly if there is room for its queue. -/
theorem make_eq_ok {ρ π : Type} [MediaEngine ρ π] {memory : Memory} {engine : ρ}
    {settings : StationSettings} {s : Station ρ π} :
    make memory engine settings = .ok s ↔
      memory.Gives (FrameQueue.ofCapacity settings.player.queueCapacity).footprint ∧
        s = new engine settings := by
  have hmake : make memory engine settings =
      (memory.reserve (FrameQueue.ofCapacity settings.player.queueCapacity).footprint).map
        fun () => (new engine settings : Station ρ π) := by
    rw [make, Player.make, FrameQueue.make]
    cases memory.reserve (FrameQueue.ofCapacity settings.player.queueCapacity).footprint <;> rfl
  rw [hmake]
  exact Memory.map_reserve_eq_ok

/-- A station that has not streamed yet starts its stream, if the parameters will do and its
simulator is without faults. -/
theorem start_new {settings : StationSettings} (hp : settings.parameters.InBounds)
    (hd : ∃ destination, Destination.parse settings.parameters.address = .ok destination) :
    ∃ s : Station Simulator SimPipeline,
      (new Simulator.flawless settings).start = (.ok (), s) ∧ s.started = true ∧
        s.parameters = settings.parameters := by
  let fresh : Station Simulator SimPipeline := new Simulator.flawless settings
  obtain ⟨player, -, hstart⟩ := checkAndStart_of_free (s := fresh) (Parameters.check_eq_ok.2 hp) hd
    (Simulator.makesAll rfl) rfl nofun
  exact ⟨_, hstart, rfl, rfl⟩

end Station

namespace Config

theorem create_of_valid {config : Config} (h : config.Valid) :
    config.engine.create = .ok .flawless := by
  rw [h.engine]
  rfl

/-- A queue whose bound will do has room for as many frames. -/
theorem footprint_of_valid {config : Config} (h : config.Valid) :
    (FrameQueue.ofCapacity config.queueCapacity).footprint =
      config.queueCapacity * Frame.slotLength := by
  have hbound : max config.queueCapacity 1 = config.queueCapacity :=
    max_eq_left (Nat.pos_of_ne_zero h.queueCapacity)
  exact congrArg (· * Frame.slotLength) hbound

/-- The station of a configuration that will do starts its stream. -/
theorem start_of_valid {config : Config} (h : config.Valid) :
    ∃ s : Station Simulator SimPipeline,
      (Station.new Simulator.flawless config.station).start = (.ok (), s) ∧ s.started = true ∧
        s.parameters = config.stream :=
  Station.start_new h.stream h.destination

end Config

/-! ## The log -/

namespace Daemon

/-- The log holds no line of an error. -/
def Clean (log : List LogEntry) : Prop :=
  ∀ entry ∈ log, entry.level ≠ .error

/-- Where the work ends well its result is as described, and it has not reported an error. -/
def Ends {α : Type} (work : Logged α) (P : α → Prop) : Prop :=
  ∀ log a log', work.run.run log = (.ok a, log') → P a ∧ (Clean log → Clean log')

namespace Ends

variable {α β : Type} {P : α → Prop} {Q : β → Prop}

theorem pure {a : α} (h : P a) : Ends (Pure.pure a) P := by
  rintro log _ _ ⟨⟩
  exact ⟨h, id⟩

theorem bind {work : Logged α} {next : α → Logged β} (hw : Ends work P)
    (hn : ∀ a, P a → Ends (next a) Q) : Ends (work >>= next) Q := by
  intro log b log' h
  rcases hrun : work.run.run log with ⟨answer, mid⟩
  rw [ExceptT.run_bind, StateT.run_bind, hrun] at h
  cases answer with
  | error cause => cases h
  | ok a =>
      obtain ⟨ha, hclean⟩ := hw log a mid hrun
      obtain ⟨hb, hclean'⟩ := hn a ha mid b log' h
      exact ⟨hb, hclean' ∘ hclean⟩

theorem say {level : Level} (h : level ≠ .error) (text : String) :
    Ends (say level text) fun _ => True := by
  rintro log _ _ ⟨⟩
  refine ⟨trivial, fun hclean entry hm => ?_⟩
  rcases List.mem_append.1 hm with hm | hm
  · exact hclean entry hm
  · rw [List.mem_singleton.1 hm]
    exact h

theorem orFail {ε : Type} (fault : ε → Fault) (outcome : Except ε α) :
    Ends (orFail fault outcome) fun a => outcome = .ok a := by
  rintro log a _ h
  cases outcome with
  | error cause => cases h
  | ok value =>
      cases h
      exact ⟨rfl, id⟩

end Ends

variable {memory : Memory} {files : Files} {env : Environment} {options : Options}

theorem ends_prepare : Ends (prepare files env options) fun plan =>
    Config.load files env = .ok plan.config := by
  refine .bind (.orFail _ _) fun config hconfig => ?_
  refine .bind (.orFail _ _) fun endpoint _ => ?_
  -- both branches go on alike
  have rest : Ends (do
      let tls ← Daemon.orFail .material
        (TlsMaterial.load files options.authorityPath options.certificatePath options.keyPath)
      return (⟨config, endpoint, tls⟩ : Plan)) fun plan =>
        Config.load files env = .ok plan.config :=
    .bind (.orFail _ _) fun _ _ => .pure hconfig
  split
  · exact .bind (.say (by decide) _) fun _ _ => rest
  · exact .bind (.orFail _ _) fun _ _ => rest

theorem ends_announce (plan : Plan) : Ends (announce plan) fun _ => True := by
  refine .bind (.say (by decide) _) fun _ _ => ?_
  refine .bind (.say (by decide) _) fun _ _ => ?_
  refine .bind (.say (by decide) _) fun _ _ => ?_
  refine .bind (.say (by decide) _) fun _ _ => ?_
  split
  · refine .bind (.say (by decide) _) fun _ _ => .say (by decide) _
  · exact .say (by decide) _

theorem ends_connect : Ends (connect memory files env options) fun service =>
    ∃ config engine, Config.load files env = .ok config ∧ config.engine.create = .ok engine ∧
      Station.make memory engine config.station = .ok service.station := by
  refine .bind ends_prepare fun plan hplan => ?_
  refine .bind (ends_announce plan) fun _ _ => ?_
  refine .bind (.orFail _ _) fun engine hengine => ?_
  refine .bind (.orFail _ _) fun station hstation => ?_
  refine .bind (.orFail _ _) fun connection _ => .pure ?_
  exact ⟨plan.config, engine, hplan, hengine, hstation⟩

/-- A daemon that is in service had room for its queue, has started its stream, if it was to, and
has reported no error. -/
theorem started_of_start {config : Config} (hload : Config.load files env = .ok config)
    {service : Service Simulator SimPipeline}
    (h : start memory files env options = .ok service) :
    memory.Gives (config.queueCapacity * Frame.slotLength) ∧
      service.station.started = options.autostart ∧ Clean service.log := by
  rw [start] at h
  split at h
  · cases h
  next service' log hconnect =>
    obtain ⟨⟨config', engine, hload', hcreate, hmake⟩, hclean⟩ := ends_connect [] _ _ hconnect
    cases hload'.symm.trans hload
    have hclean := hclean nofun
    have hvalid := Config.valid_of_load hload
    cases hcreate.symm.trans (Config.create_of_valid hvalid)
    obtain ⟨hroom, hstation⟩ := Station.make_eq_ok.1 hmake
    have hroom := Config.footprint_of_valid hvalid ▸ hroom
    cases h
    cases options.autostart with
    | false => exact ⟨hroom, congrArg Station.started hstation, hclean⟩
    | true =>
        obtain ⟨s, hs, hstarted, -⟩ := Config.start_of_valid hvalid
        have hservice : ({ service' with log } : Service Simulator SimPipeline).autostart =
            { service' with station := s, log } := by
          rw [Service.autostart, hstation, hs]
          rfl
        rw [if_pos rfl, hservice]
        exact ⟨hroom, hstarted, hclean⟩

end Daemon

/-- What has been loaded can be started, if there is room: there is an engine of the configured
kind, and the station with it can be made and starts its stream exactly if the machine gives a piece
of memory for as many frames as the queue is to hold. A daemon comes into service only then; one
that starts its stream without being told to has a stream, and none has an error to report. -/
theorem Config.start_of_load {files : Files} {env : Environment} {config : Config}
    (h : load files env = .ok config) (memory : Memory) :
    (∃ engine, config.engine.create = .ok engine ∧
      (memory.Gives (config.queueCapacity * Frame.slotLength) ↔
        ∃ made s : Station Simulator SimPipeline,
          Station.make memory engine config.station = .ok made ∧ made.start = (.ok (), s) ∧
            s.started = true ∧ s.parameters = config.stream)) ∧
    ∀ options service, Daemon.start memory files env options = .ok service →
      memory.Gives (config.queueCapacity * Frame.slotLength) ∧
        service.station.started = options.autostart ∧ Daemon.Clean service.log := by
  have hvalid := valid_of_load h
  refine ⟨⟨.flawless, create_of_valid hvalid, ?_⟩, fun _ _ => Daemon.started_of_start h⟩
  rw [← footprint_of_valid hvalid]
  constructor
  · intro hroom
    obtain ⟨s, hs, hstarted, hparameters⟩ := start_of_valid hvalid
    exact ⟨_, s, Station.make_eq_ok.2 ⟨hroom, rfl⟩, hs, hstarted, hparameters⟩
  · rintro ⟨made, -, hmake, -⟩
    exact (Station.make_eq_ok.1 hmake).1

/-- Another address and a shorter queue, and everything else as usual. -/
def trialEnvironment : Environment :=
  ⟨[("STREAMER_STREAM_ADDRESS", Text.encodeUtf8 "udp://10.0.0.7:5004"),
    ("STREAMER_QUEUE_CAPACITY", Text.encodeUtf8 "8")]⟩

/-- What the environment of the trial leads to. -/
def trialConfig : Config :=
  { stream := { Parameters.initial with address := "udp://10.0.0.7:5004" }
    liveInput := true
    tlsValidation := false
    engine := .simulated
    pullTimeout := Config.standardPullTimeout
    queueCapacity := 8
    statusInterval := Config.standardStatusInterval
    maxChunk := Frame.standardLimit
    topics := .standard }

/-- A broker on this machine, and a stream from the start. -/
def trialOptions : Daemon.Options :=
  ⟨Endpoint.standardText, false, none, none, false, none, none, none, Daemon.name, true⟩

/-- Where 1000 bytes are to be had in one piece, the configuration of the trial starts its stream,
and so does the daemon. -/
theorem start_of_load_of_trial :
    let memory : Memory := ⟨1000⟩
    Config.load Files.none trialEnvironment = .ok trialConfig ∧
      (∃ engine, trialConfig.engine.create = .ok engine ∧
        ∃ made s : Station Simulator SimPipeline,
          Station.make memory engine trialConfig.station = .ok made ∧ made.start = (.ok (), s) ∧
            s.started = true) ∧
      ∃ service, Daemon.start memory Files.none trialEnvironment trialOptions = .ok service ∧
        service.station.started = true ∧ Daemon.Clean service.log := by
  intro memory
  have hload : Config.load Files.none trialEnvironment = .ok trialConfig := by decide +kernel
  have hroom : memory.Gives (trialConfig.queueCapacity * Frame.slotLength) := by decide
  obtain ⟨⟨engine, hcreate, hmade⟩, hdaemon⟩ := Config.start_of_load hload memory
  obtain ⟨made, s, hmake, hs, hstarted, -⟩ := hmade.1 hroom
  refine ⟨hload, ⟨engine, hcreate, made, s, hmake, hs, hstarted⟩, ?_⟩
  have hok : (Daemon.start memory Files.none trialEnvironment trialOptions).isOk = true := by
    decide +kernel
  cases hservice : Daemon.start memory Files.none trialEnvironment trialOptions with
  | error outcome => simp [hservice, Except.isOk, Except.toBool] at hok
  | ok service => exact ⟨service, rfl, (hdaemon trialOptions service hservice).2⟩

/-- The longest queue that can be asked for, and everything else as usual. -/
def vastEnvironment : Environment :=
  ⟨[("STREAMER_QUEUE_CAPACITY", Text.encodeUtf8 "18446744073709551615")]⟩

/-- What the environment with the longest queue leads to. -/
def vastConfig : Config :=
  { trialConfig with
    stream := { Parameters.initial with address := Config.standardAddress }
    queueCapacity := 2 ^ 64 - 1 }

/-- The check of a configuration is not strong enough: the longest queue that can be asked for is
loaded, but no station with such a queue can be made, however much memory there is, and the daemon
is cut short before it is in service. -/
theorem not_start_of_vast :
    Config.load Files.none vastEnvironment = .ok vastConfig ∧
      vastConfig.engine.create = .ok .flawless ∧
      (∀ (memory : Memory) (s : Station Simulator SimPipeline),
        Station.make memory .flawless vastConfig.station ≠ .ok s) ∧
      ∃ outcome, Daemon.start .ample Files.none vastEnvironment trialOptions = .error outcome ∧
        outcome.ending = .cutShort .unaddressable := by
  refine ⟨by decide +kernel, by decide +kernel, ?_, ?_⟩
  · intro memory s hmake
    obtain ⟨⟨haddressable, -⟩, -⟩ := Station.make_eq_ok.1 hmake
    exact absurd haddressable (by decide)
  · have hcut : ((Daemon.start .ample Files.none vastEnvironment trialOptions).mapError
        Daemon.Outcome.ending).map (fun _ => ()) = .error (.cutShort .unaddressable) := by
      decide +kernel
    cases hstart : Daemon.start .ample Files.none vastEnvironment trialOptions with
    | ok service =>
        rw [hstart] at hcut
        cases hcut
    | error outcome =>
        rw [hstart] at hcut
        exact ⟨outcome, rfl, Except.error.inj hcut⟩

end StandbyStream
