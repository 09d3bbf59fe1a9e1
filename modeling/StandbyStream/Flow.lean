import StandbyStream.Frame

/-!
# Flow through a pipeline

What passes between a running pipeline and its owner: buffers, the answers to
them, the switch's two inputs, and the events a pipeline raises.
-/

namespace StandbyStream

/-- The two inputs of a stream: frames from the producer, or the built-in picture. -/
inductive Input where
  | live
  | fallback
  deriving DecidableEq, Repr

/-- The name of an input in reports. -/
def Input.name : Input → String
  | .live => "live_source"
  | .fallback => "fallback_source"

/-- How the live source refuses a buffer. -/
inductive FlowError where
  | notLinked
  | flushing
  | endOfStream
  | notNegotiated
  | failure
  deriving DecidableEq, Repr

/-- The name of a flow error. -/
def FlowError.name : FlowError → String
  | .notLinked => "not-linked"
  | .flushing => "flushing"
  | .endOfStream => "eos"
  | .notNegotiated => "not-negotiated"
  | .failure => "error"

/-- All flow errors. -/
def FlowError.all : List FlowError :=
  [.notLinked, .flushing, .endOfStream, .notNegotiated, .failure]

/-- A payload with its presentation time in nanoseconds. -/
structure Buffer where
  pts : Nat
  payload : Bytes
  deriving DecidableEq, Repr

/-- What a pipeline raises. -/
inductive Event where
  /-- The live source takes one more buffer. -/
  | needData
  | endOfStream
  | warning (source : Option String) (message : String)
  | error (source : Option String) (message : String)
  /-- Nothing but an occasion to look around. -/
  | wake
  deriving DecidableEq, Repr

end StandbyStream
