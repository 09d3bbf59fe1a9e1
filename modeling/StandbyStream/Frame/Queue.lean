import StandbyStream.Frame
import StandbyStream.Memory

/-!
# Frame queue

A bounded first-in first-out queue. A push never waits: into a full queue it
evicts the oldest frame, into a closed one it is discarded. A closed queue
holds nothing and answers every pop with `closed` until it is reset.

All the room of a queue is set aside when it is made, and a bound for which
there is no room cannot be served.
-/

namespace StandbyStream

/-- Frames waiting for the pipeline, with counters that outlive closing and resetting. -/
structure FrameQueue where
  capacity : Nat
  frames : List Frame
  closed : Bool
  pushed : Nat
  evicted : Nat
  discarded : Nat
  deriving DecidableEq, Repr

namespace FrameQueue

/-- The bound where none is configured. -/
def defaultCapacity : Nat := 120

/-- An open, empty queue, once there is room for it; a bound of zero counts as one. -/
def ofCapacity (capacity : Nat) : FrameQueue :=
  ⟨max capacity 1, [], false, 0, 0, 0⟩

/-- What a queue takes up when it is made, in bytes. -/
def footprint (q : FrameQueue) : Nat :=
  q.capacity * Frame.slotLength

/-- Makes an open, empty queue, if there is room for it. -/
def make (memory : Memory) (capacity : Nat) : Except Memory.Shortage FrameQueue :=
  (memory.reserve (ofCapacity capacity).footprint).map fun () => ofCapacity capacity

/-- What became of a pushed frame. -/
inductive PushResult where
  | queued
  | evicted
  | discarded
  deriving DecidableEq, Repr

/-- What a pop finds. -/
inductive PopResult where
  | frame (frame : Frame)
  | empty
  | closed
  deriving DecidableEq, Repr

/-- How many of the oldest frames have to go before one more fits. -/
def surplus (q : FrameQueue) : Nat :=
  q.frames.length + 1 - q.capacity

/-- Appends a frame, evicting the oldest ones that no longer fit. -/
def push (q : FrameQueue) (frame : Frame) : PushResult × FrameQueue :=
  if q.closed then (.discarded, { q with discarded := q.discarded + 1 })
  else
    (if q.surplus = 0 then .queued else .evicted,
      { q with
        frames := q.frames.drop q.surplus ++ [frame]
        pushed := q.pushed + 1
        evicted := q.evicted + q.surplus })

/-- Takes the oldest frame. A closed queue says so even before it is looked into. -/
def pop (q : FrameQueue) : PopResult × FrameQueue :=
  if q.closed then (.closed, q)
  else
    match q.frames with
    | [] => (.empty, q)
    | frame :: rest => (.frame frame, { q with frames := rest })

/-- Drops what is queued and refuses everything from now on. -/
def close (q : FrameQueue) : FrameQueue :=
  { q with frames := [], closed := true }

/-- Drops what is queued and opens the queue again. -/
def reset (q : FrameQueue) : FrameQueue :=
  { q with frames := [], closed := false }

/-- Number of queued frames. -/
def size (q : FrameQueue) : Nat :=
  q.frames.length

end FrameQueue

end StandbyStream
