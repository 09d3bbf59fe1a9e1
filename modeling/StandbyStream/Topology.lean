import StandbyStream.Destination
import StandbyStream.Encoding
import StandbyStream.Flow
import StandbyStream.Topology.Stage

/-!
# Topologies

The graph of a pipeline: a list of named stages and the links between them. It
is made once per build and says everything that a media engine needs to know.
-/

namespace StandbyStream

/-- Whether a stream has a live input next to the fallback picture. -/
inductive Mode where
  /-- The fallback picture alone. -/
  | fallbackOnly
  /-- Live frames, with the fallback picture behind a switch. -/
  | live
  deriving DecidableEq, Repr

/-- The name of a mode. -/
def Mode.name : Mode → String
  | .fallbackOnly => "default"
  | .live => "live"

/-- The input that is on air when a pipeline of this mode begins. -/
def Mode.firstInput : Mode → Input
  | .fallbackOnly => .fallback
  | .live => .live

/-- A directed link between two stages, by their names. -/
structure Link where
  source : String
  target : String
  deriving DecidableEq, Repr

/-- The graph of a pipeline and what it was made for. -/
structure Topology where
  mode : Mode
  encoding : Encoding
  fps : UInt32
  destination : Destination
  stages : List Stage
  links : List Link
  deriving Repr

namespace Topology

/-- The first stage with the name. -/
def stage? (t : Topology) (name : String) : Option Stage :=
  t.stages.find? (·.name == name)

/-- The source of the live branch. -/
def liveSource? (t : Topology) : Option Stage :=
  t.stages.find? fun stage => stage.kind == .source && stage.branch == .live

/-- The switch between the inputs. -/
def switch? (t : Topology) : Option Stage :=
  t.stages.find? (·.kind == .switch)

/-- The stage that sends the stream off. -/
def sink? (t : Topology) : Option Stage :=
  t.stages.find? (·.kind == .sink)

/-- Number of links into the stage of the name. -/
def fanIn (t : Topology) (name : String) : Nat :=
  t.links.countP (·.target == name)

/-- The stages that the stage of the name feeds, in link order. -/
def outputs (t : Topology) (name : String) : List String :=
  (t.links.filter (·.source == name)).map (·.target)

/-- The stages that feed the switch, in link order, with their branches. -/
def switchInputs (t : Topology) : List (Branch × String) :=
  match t.switch? with
  | none => []
  | some switch =>
    (t.links.filter (·.target == switch.name)).filterMap fun link =>
      (t.stage? link.source).map fun stage => (stage.branch, stage.name)

/-- Time from frame to frame in nanoseconds. -/
def frameInterval (t : Topology) : Nat :=
  1000000000 / max t.fps.toNat 1

end Topology

end StandbyStream
