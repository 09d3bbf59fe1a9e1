import StandbyStream.Player.Loop
import StandbyStream.Topology.Build

/-!
# The player

The life of a stream: a pipeline is built, started, played by its event loop
and stopped. At most one pipeline is held at a time. Nothing here restarts a
loop that has ended.

A player is read at rest, so every operation ends with its loop settled.
-/

namespace StandbyStream

/-- How a player feeds its pipelines. -/
structure PlayerSettings where
  /-- Longest wait for a frame, in milliseconds. -/
  pullTimeout : Nat
  queueCapacity : Nat
  deriving DecidableEq, Repr

/-- The running part of a started pipeline. -/
structure Running where
  feed : Feed
  phase : Phase
  deriving DecidableEq, Repr

/-- A pipeline that has been built and not been stopped. -/
structure Held (π : Type) where
  topology : Topology
  pipeline : π
  /-- Events that have not been handled, the oldest first. -/
  pending : List Event
  /-- The loop, once started. -/
  running : Option Running

/-- A stream, its queue and its engine. -/
structure Player (ρ π : Type) where
  engine : ρ
  patience : Patience
  queue : FrameQueue
  status : Status
  state : State
  held : Option (Held π)
  /-- A loop that runs is to end. -/
  quit : Bool

namespace Player

variable {ρ π : Type} [MediaEngine ρ π]

/-- A player that has never built a pipeline, once there is room for its queue. -/
def new (engine : ρ) (settings : PlayerSettings) : Player ρ π :=
  { engine
    patience := .ofMillis settings.pullTimeout
    queue := .ofCapacity settings.queueCapacity
    status := .clear
    state := .unbuilt
    held := none
    quit := false }

/-- Makes a player that has never built a pipeline, if there is room for its queue. -/
def make (memory : Memory) (engine : ρ) (settings : PlayerSettings) :
    Except Memory.Shortage (Player ρ π) :=
  (FrameQueue.make memory settings.queueCapacity).map fun queue =>
    { (new engine settings : Player ρ π) with queue }

/-! ## The loop of the held pipeline -/

/-- The held pipeline has been started; its loop may have ended since. -/
def isStarted (p : Player ρ π) : Bool :=
  p.held.any (·.running.isSome)

/-- The loop has been started and has ended. -/
def loopEnded (p : Player ρ π) : Bool :=
  p.held.any fun held => held.running.any (·.phase == .ended)

/-- The loop of a started pipeline with everything that it works on. -/
def loop (p : Player ρ π) (held : Held π) (running : Running) : Loop ρ π :=
  ⟨p.patience, ⟨p.queue, p.status, ⟨held.pipeline, p.engine⟩⟩, p.state, running.feed,
    held.pending, running.phase, p.quit⟩

/-- The player after its loop has run. -/
def withLoop (p : Player ρ π) (held : Held π) (loop : Loop ρ π) : Player ρ π :=
  { p with
    engine := loop.deck.rig.engine
    queue := loop.deck.queue
    status := loop.deck.status
    state := loop.state
    held := some
      { held with
        pipeline := loop.deck.rig.pipeline
        pending := loop.pending
        running := some ⟨loop.feed, loop.phase⟩ } }

/-- Runs the loop, if there is one, to rest. -/
def settle (p : Player ρ π) : Player ρ π :=
  match p.held with
  | some held =>
    match held.running with
    | some running => p.withLoop held (p.loop held running).settle
    | none => p
  | none => p

/-! ## Build -/

/-- Why a build failed. -/
inductive BuildFault where
  | playing
  | topology (cause : Topology.BuildFault)
  | missingFactory (cause : MissingFactory)
  | instantiate (engine : String) (cause : Plain)
  deriving DecidableEq, Repr

/-- The messages of a fault, outermost first. -/
def BuildFault.chain : BuildFault → List String
  | .playing => ["stream pipeline is already playing; stop it before rebuilding"]
  | .topology cause => "invalid stream topology" :: cause.chain
  | .missingFactory cause => Explains.chain cause
  | .instantiate engine cause =>
    ["instantiate pipeline on '" ++ engine ++ "' backend", cause.message]

instance : Explains BuildFault where
  chain := BuildFault.chain

/-- Builds the pipeline for a request. Refused as long as a pipeline is started; one that is
built and not started is given up first, whether or not the build succeeds. -/
def build (p : Player ρ π) (request : BuildRequest) : Except BuildFault Unit × Player ρ π :=
  if p.isStarted ∨ p.state = .playing then (.error .playing, p)
  else
    let p := { p with held := none }
    match Topology.build request with
    | .error cause => (.error (.topology cause), p)
    | .ok t =>
      match checkFactories p.engine t with
      | .error cause => (.error (.missingFactory cause), p)
      | .ok () =>
        match MediaEngine.instantiate t p.engine with
        | (.error cause, engine) =>
          (.error (.instantiate (MediaEngine.name engine) cause), { p with engine })
        | (.ok pipeline, engine) =>
          (.ok (),
            { p with
              engine
              queue := p.queue.reset
              status := .afterBuild (t.mode = .fallbackOnly)
              state := .built
              held := some ⟨t, pipeline, [], none⟩
              quit := false })

/-! ## Start -/

/-- Why a start failed. -/
inductive StartFault where
  | running
  | nothingBuilt
  deriving DecidableEq, Repr

instance : Explains StartFault where
  chain
    | .running => ["stream pipeline is already running"]
    | .nothingBuilt => ["no stream pipeline built"]

/-- Starts the loop of the held pipeline. A pipeline that then fails to play is no fault of the
start. -/
def start (p : Player ρ π) : Except StartFault Unit × Player ρ π :=
  match p.held with
  | none => (.error .nothingBuilt, p)
  | some held =>
    match held.running with
    | some _ => (.error .running, p)
    | none =>
      let running := ⟨.ofMode held.topology.mode, .listening⟩
      (.ok (), (p.withLoop held (p.loop held running).begin).settle)

/-! ## Stop -/

/-- Takes the held pipeline down: no more demand, the end of the live input if it was started,
and a halt. What the pipeline answers does not matter. -/
def takeDown (p : Player ρ π) (held : Held π) : Player ρ π :=
  let rig := MediaEngine.disconnectDemand ⟨held.pipeline, p.engine⟩
  let (events, rig) :=
    if held.running.isSome ∧ held.topology.liveSource?.isSome then
      (MediaEngine.endOfStream rig).2
    else ([], rig)
  let rig := (MediaEngine.halt rig).2
  { p with
    engine := rig.engine
    held := some { held with pipeline := rig.pipeline, pending := held.pending ++ events } }

/-- Tells the loop to end: the queue is closed and the loop is woken. -/
def askToQuit (p : Player ρ π) : Player ρ π :=
  { p with
    quit := true
    queue := p.queue.close
    held := p.held.map fun held => { held with pending := held.pending ++ [.wake] } }

/-- Stops the stream and gives its pipeline up. -/
def stop (p : Player ρ π) : Player ρ π :=
  match p.held with
  | none =>
    { p with
      status := { p.status with playing := false }
      state := if p.state = .unbuilt then .unbuilt else .stopped }
  | some held =>
    let p := (({ p with state := .stopping }).takeDown held).askToQuit.settle
    { p with
      status := { p.status with playing := false }
      state := .stopped
      held := none }

/-! ## Frames and events -/

/-- Hands in one frame. Never waits. -/
def submit (p : Player ρ π) (frame : Frame) : Player ρ π :=
  ({ p with queue := (p.queue.push frame).2 }).settle

/-- An event of the held pipeline; it is lost if no loop will handle it any more. -/
def post (p : Player ρ π) (event : Event) : Bool × Player ρ π :=
  match p.held with
  | none => (false, p)
  | some held =>
    if p.loopEnded then (false, p)
    else
      (true, ({ p with held := some { held with pending := held.pending ++ [event] } }).settle)

/-- The published view. -/
def snapshot (p : Player ρ π) : Snapshot :=
  ⟨p.status, p.state⟩

end Player

end StandbyStream
