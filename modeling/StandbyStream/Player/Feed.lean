import StandbyStream.Frame.Queue
import StandbyStream.Engine
import StandbyStream.Status

/-!
# Feeding the live input

Each demand of a pipeline takes one frame from the queue and hands it to the
live source, timed from the first frame taken. When no frame comes in time, the
fallback is put on air; there is no way back for this pipeline.
-/

namespace StandbyStream

/-- How long a pull waits for a frame, as seen by whoever looks at the stream at rest. This is a way
of looking and not a rule of the stream, in which any wait may be over before the next look (see
`Player.Turn`). -/
inductive Patience where
  /-- The wait is over when anyone looks. -/
  | brief
  /-- The wait goes on until a frame comes or the queue is closed. -/
  | lasting
  deriving DecidableEq, Repr

/-- Whoever looks gives a pull a second before the stream counts as being at rest. Nothing but the
time of the look depends on this bound; the stream itself does not know it. -/
def Patience.ofMillis (ms : Nat) : Patience :=
  if ms < 1000 then .brief else .lasting

/-- What a pipeline plays and is fed from. -/
structure Deck (ρ π : Type) where
  queue : FrameQueue
  status : Status
  rig : Rig ρ π

/-- The feed of one pipeline. -/
structure Feed where
  mode : Mode
  /-- The input that was last put on air. -/
  input : Input
  /-- Timestamp of the first frame taken; presentation times count from it. -/
  epoch : Option UInt64
  delivered : Nat
  deriving DecidableEq, Repr

namespace Feed

/-- The feed of a pipeline that has not begun. -/
def ofMode (mode : Mode) : Feed :=
  ⟨mode, mode.firstInput, none, 0⟩

/-- The fallback is on air. -/
def failedOver (feed : Feed) : Bool :=
  feed.input == .fallback

/-- What became of a demand. -/
inductive Outcome where
  /-- There is no live input to feed, or no longer. -/
  | idle
  | delivered (pts : Nat)
  | failedOver
  /-- The live source refused a buffer, or the fallback could not be put on air. -/
  | fatal (fault : FlowError)
  /-- The queue has been closed. -/
  | closed
  /-- No frame yet, and the wait goes on. -/
  | waiting
  deriving DecidableEq, Repr

variable {ρ π : Type} [MediaEngine ρ π]

/-- Puts the fallback on air, unless it is; tells whether this call did it. -/
def trip (feed : Feed) (deck : Deck ρ π) : Except Plain Bool × Feed × Deck ρ π :=
  if feed.failedOver then (.ok false, feed, deck)
  else
    match MediaEngine.select .fallback deck.rig with
    | (.error fault, rig) => (.error fault, feed, { deck with rig })
    | (.ok (), rig) =>
      (.ok true, { feed with input := .fallback },
        { deck with rig, status := { deck.status with onFallback := true } })

/-- Hands a frame to the live source. The first frame taken sets the time origin, accepted or
not; earlier timestamps count as zero. -/
def deliver (feed : Feed) (frame : Frame) (deck : Deck ρ π) : Outcome × Feed × Deck ρ π :=
  let epoch := feed.epoch.getD frame.timestamp
  let feed := { feed with epoch := some epoch }
  let pts := frame.timestamp.toNat - epoch.toNat
  match MediaEngine.push ⟨pts, frame.payload⟩ deck.rig with
  | (.ok (), rig) =>
    (.delivered pts, { feed with delivered := feed.delivered + 1 }, { deck with rig })
  | (.error fault, rig) => (.fatal fault, feed, { deck with rig })

/-- Answers a demand. -/
def pull (patience : Patience) (feed : Feed) (deck : Deck ρ π) : Outcome × Feed × Deck ρ π :=
  if feed.mode = .fallbackOnly ∨ feed.failedOver then (.idle, feed, deck)
  else
    match deck.queue.pop with
    | (.closed, _) => (.closed, feed, deck)
    | (.frame frame, queue) => feed.deliver frame { deck with queue }
    | (.empty, _) =>
      match patience with
      | .lasting => (.waiting, feed, deck)
      | .brief =>
        match feed.trip deck with
        | (.ok _, feed, deck) => (.failedOver, feed, deck)
        | (.error _, feed, deck) => (.fatal .failure, feed, deck)

end Feed

end StandbyStream
