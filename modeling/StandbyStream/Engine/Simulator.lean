import StandbyStream.Engine

/-!
# The simulator

A media engine without media. While the live input is on air, a playing
pipeline raises one demand at a time and takes it back with the buffer that
answers it; while the fallback is on air, pictures follow at the frame
interval. What reaches the sink is recorded, and faults can be set.
-/

namespace StandbyStream

/-- The simulator and the record of what its pipelines did. Its pipelines are numbered from zero in
the order in which they are made. -/
structure Simulator where
  /-- Factories that it pretends to lack. -/
  missing : List String
  /-- Playing fails. -/
  failPlay : Bool
  /-- How pushes into a new pipeline are refused. -/
  pushFault : Option FlowError
  /-- The pipeline into whose channel events from outside are sent. -/
  sender : Option Nat
  /-- The live buffers that reached the sink: time and payload length. -/
  live : List (Nat × Nat)
  /-- The input on air in the newest pipeline. -/
  active : Option Input
  playing : Bool
  halted : Bool
  ended : Bool
  /-- How pushes are refused now. -/
  refusal : Option FlowError
  demandRequests : Nat
  instantiations : Nat
  deriving DecidableEq, Repr

/-- A pipeline of the simulator. -/
structure SimPipeline where
  hasLive : Bool
  /-- Time from frame to frame in nanoseconds. -/
  interval : Nat
  running : Bool
  demandConnected : Bool
  /-- A demand has been raised and not been answered. -/
  demandPending : Bool
  deriving DecidableEq, Repr

namespace Simulator

/-- A simulator with the given faults and an empty record. -/
def withFaults (missing : List String) (failPlay : Bool) (pushFault : Option FlowError) :
    Simulator :=
  ⟨missing, failPlay, pushFault, none, [], none, false, false, false, none, 0, 0⟩

/-- A simulator without faults. -/
def flawless : Simulator :=
  withFaults [] false none

/-- Every factory that a topology can name. -/
def knownFactories : List String :=
  ["appsrc", "videotestsrc", "capsfilter", "textoverlay", "x264enc", "x265enc", "identity",
    "input-selector", "h264parse", "h265parse", "queue", "rtph264pay", "rtph265pay", "udpsink",
    "rtspclientsink"]

/-- The factory is known and not missing. -/
def hasFactory (sim : Simulator) (factory : String) : Bool :=
  knownFactories.contains factory && !sim.missing.contains factory

/-- Makes a pipeline, which gets the events from outside from now on. The record is kept, the marks
of the pipeline before are not. -/
def instantiate (t : Topology) (sim : Simulator) : Except Plain SimPipeline × Simulator :=
  match firstMissing? sim.hasFactory t.stages with
  | some stage =>
    (.error ⟨"no element factory '" ++ stage.factory ++ "' for stage '" ++ stage.name ++ "'"⟩, sim)
  | none =>
    let hasLive := t.liveSource?.isSome
    (.ok ⟨hasLive, t.frameInterval, false, true, false⟩,
      { sim with
        sender := some sim.instantiations
        active := some (if hasLive then .live else .fallback)
        playing := false
        halted := false
        ended := false
        refusal := sim.pushFault
        instantiations := sim.instantiations + 1 })

/-- Starts the pipeline; one that runs already is left alone. -/
def play (rig : Rig Simulator SimPipeline) : Except Plain Unit × Rig Simulator SimPipeline :=
  if rig.engine.failPlay then (.error ⟨"state change to playing failed"⟩, rig)
  else if rig.pipeline.running then (.ok (), rig)
  else
    (.ok (),
      ⟨{ rig.pipeline with running := true }, { rig.engine with playing := true }⟩)

/-- Stops the pipeline. -/
def halt (rig : Rig Simulator SimPipeline) : Except Plain Unit × Rig Simulator SimPipeline :=
  (.ok (),
    ⟨{ rig.pipeline with running := false }, { rig.engine with playing := false, halted := true }⟩)

/-- Records a buffer and takes back the demand that it answers. -/
def push (buffer : Buffer) (rig : Rig Simulator SimPipeline) :
    Except FlowError Unit × Rig Simulator SimPipeline :=
  if !rig.pipeline.hasLive then (.error .notLinked, rig)
  else if !rig.engine.playing then (.error .flushing, rig)
  else if rig.engine.ended then (.error .endOfStream, rig)
  else
    match rig.engine.refusal with
    | some fault => (.error fault, rig)
    | none =>
      (.ok (),
        ⟨{ rig.pipeline with demandPending := false },
          { rig.engine with
            live := rig.engine.live ++ [(buffer.pts, buffer.payload.length)] }⟩)

/-- Ends the live input; while it is on air, that ends the stream. -/
def endOfStream (rig : Rig Simulator SimPipeline) :
    Except FlowError Unit × List Event × Rig Simulator SimPipeline :=
  if !rig.pipeline.hasLive then (.error .notLinked, [], rig)
  else if rig.engine.halted then (.error .flushing, [], rig)
  else if rig.engine.ended then (.error .endOfStream, [], rig)
  else
    (.ok (), if rig.engine.active = some .live then [.endOfStream] else [],
      { rig with engine := { rig.engine with ended := true } })

/-- Puts an input on air; the live one only where there is one. -/
def select (input : Input) (rig : Rig Simulator SimPipeline) :
    Except Plain Unit × Rig Simulator SimPipeline :=
  if input = .live ∧ !rig.pipeline.hasLive then
    (.error ⟨"topology has no live input to select"⟩, rig)
  else (.ok (), { rig with engine := { rig.engine with active := some input } })

/-- Raises no demand any more. -/
def disconnectDemand (rig : Rig Simulator SimPipeline) : Rig Simulator SimPipeline :=
  { rig with pipeline := { rig.pipeline with demandConnected := false } }

/-- A demand is due: the pipeline runs with the live input on air, and none is unanswered. -/
def demandDue (rig : Rig Simulator SimPipeline) : Bool :=
  rig.pipeline.running && rig.engine.active == some .live && rig.pipeline.demandConnected &&
    !rig.pipeline.demandPending

/-- Raises the demand that is due. -/
def raiseDemand? (rig : Rig Simulator SimPipeline) : Option (Rig Simulator SimPipeline) :=
  if demandDue rig then
    some ⟨{ rig.pipeline with demandPending := true },
      { rig.engine with demandRequests := rig.engine.demandRequests + 1 }⟩
  else none

/-- Times of the first `count` fallback pictures since the pipeline began to run. -/
def fallbackTimes (pipeline : SimPipeline) (count : Nat) : List Nat :=
  (List.range count).map (· * pipeline.interval)

/-- Raises an event from outside. It goes to the pipeline that was made last, if there is one and
its channel is listened to. -/
def inject (listened : Nat → Bool) (event : Event) (sim : Simulator) : Option (Nat × Event) :=
  (sim.sender.filter listened).map fun number => (number, event)

/-- Changes how pushes are refused from now on. -/
def setRefusal (fault : Option FlowError) (sim : Simulator) : Simulator :=
  { sim with refusal := fault }

end Simulator

instance : MediaEngine Simulator SimPipeline where
  name _ := "simulated"
  hasFactory := Simulator.hasFactory
  instantiate := Simulator.instantiate
  play := Simulator.play
  halt := Simulator.halt
  push := Simulator.push
  endOfStream := Simulator.endOfStream
  select := Simulator.select
  disconnectDemand := Simulator.disconnectDemand
  raiseDemand? := Simulator.raiseDemand?

end StandbyStream
