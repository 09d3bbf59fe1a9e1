/-!
# Stream status

Three flags that the stream's owner publishes, and the stage of life of its
pipeline.
-/

namespace StandbyStream

/-- Where a stream's pipeline stands in its life. -/
inductive State where
  | unbuilt
  | built
  | playing
  | stopping
  | stopped
  deriving DecidableEq, Repr

/-- The name of a state in reports. -/
def State.name : State → String
  | .unbuilt => "unbuilt"
  | .built => "built"
  | .playing => "playing"
  | .stopping => "stopping"
  | .stopped => "stopped"

/-- All states. -/
def State.all : List State :=
  [.unbuilt, .built, .playing, .stopping, .stopped]

/-- The flags of a stream. -/
structure Status where
  /-- The pipeline plays and its events are being handled. -/
  playing : Bool
  /-- The fallback picture is on air. -/
  onFallback : Bool
  /-- Something went wrong since the last build. -/
  errorDetected : Bool
  deriving DecidableEq, Repr

/-- All flags down. -/
def Status.clear : Status :=
  ⟨false, false, false⟩

/-- The flags of a pipeline that has just been built. -/
def Status.afterBuild (onFallback : Bool) : Status :=
  ⟨false, onFallback, false⟩

/-- The published view: the flags together with the state. -/
structure Snapshot where
  status : Status
  state : State
  deriving DecidableEq, Repr

end StandbyStream
