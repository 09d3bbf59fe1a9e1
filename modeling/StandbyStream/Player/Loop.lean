import StandbyStream.Player.Feed

/-!
# The event loop

A started pipeline plays while its events are handled one after another. A
demand runs one pull; the end of the stream and errors end the loop; warnings
and wake-ups do not. While a pull waits for a frame, later events wait too.

The loop is read at rest: `settle` runs it until it listens with nothing left
to handle, waits in a pull, or has ended.
-/

namespace StandbyStream

/-- Where the loop of a started pipeline stands. -/
inductive Phase where
  | listening
  /-- A pull waits for a frame. -/
  | pulling
  | ended
  deriving DecidableEq, Repr

/-- The loop of a started pipeline and all that it works on. -/
structure Loop (ρ π : Type) where
  patience : Patience
  deck : Deck ρ π
  state : State
  feed : Feed
  /-- Events that have not been handled, the oldest first. -/
  pending : List Event
  phase : Phase
  /-- The loop is to end at the next occasion. -/
  quit : Bool

namespace Loop

variable {ρ π : Type} [MediaEngine ρ π]

/-- A loop that ends by itself leaves the pipeline stopped; a stop under way is left alone. -/
def stateAfterEnd : State → State
  | .built => .stopped
  | .playing => .stopped
  | state => state

/-- The pipeline could not play. -/
def failToPlay (loop : Loop ρ π) : Loop ρ π :=
  { loop with
    deck := { loop.deck with status := { loop.deck.status with errorDetected := true } }
    state := stateAfterEnd loop.state
    pending := []
    phase := .ended }

/-- Ends the loop; an error is marked and the mark stays. -/
def finish (failed : Bool) (loop : Loop ρ π) : Loop ρ π :=
  let status := loop.deck.status
  { loop with
    deck := { loop.deck with
      status := { status with playing := false, errorDetected := status.errorDetected || failed } }
    state := stateAfterEnd loop.state
    pending := []
    phase := .ended }

/-- Runs a pull, or goes on with one that has been waiting. -/
def pull (loop : Loop ρ π) : Loop ρ π :=
  match loop.feed.pull loop.patience loop.deck with
  | (outcome, feed, deck) =>
    let loop := { loop with feed, deck }
    match outcome with
    | .fatal _ => loop.finish true
    | .closed => loop.finish false
    | .waiting => { loop with phase := .pulling }
    | _ => { loop with phase := .listening }

/-- Handles one event. -/
def handle (loop : Loop ρ π) : Event → Loop ρ π
  | .needData => loop.pull
  | .endOfStream => loop.finish false
  | .warning .. => loop
  | .error .. => loop.finish true
  | .wake => loop

/-- Handles events as long as the loop listens; whether to quit is asked after each. -/
def handleAll (loop : Loop ρ π) : List Event → Loop ρ π
  | [] => { loop with pending := [] }
  | event :: rest =>
    let loop := loop.handle event
    match loop.phase with
    | .listening => if loop.quit then loop.finish false else handleAll loop rest
    | .pulling => { loop with pending := rest }
    | .ended => loop

/-- Serves the demands that the pipeline raises by itself, at most `count`. -/
def serveDemand (loop : Loop ρ π) : Nat → Loop ρ π
  | 0 => loop
  | count + 1 =>
    match loop.phase, MediaEngine.raiseDemand? loop.deck.rig with
    | .listening, some rig =>
      serveDemand ({ loop with deck := { loop.deck with rig } }).pull count
    | _, _ => loop

/-- Goes on with a pull that has been waiting. -/
def resume (loop : Loop ρ π) : Loop ρ π :=
  match loop.phase with
  | .pulling =>
    let loop := loop.pull
    if loop.phase = .listening ∧ loop.quit then loop.finish false else loop
  | _ => loop

/-- Runs the loop to rest. Every demand but the last takes a frame from the queue, so the length
of the queue bounds their number. -/
def settle (loop : Loop ρ π) : Loop ρ π :=
  let loop := loop.resume
  let loop := match loop.phase with
    | .listening => loop.handleAll loop.pending
    | _ => loop
  loop.serveDemand (loop.deck.queue.size + 1)

/-- Begins to play and to handle what has been raised. -/
def begin (loop : Loop ρ π) : Loop ρ π :=
  match MediaEngine.play loop.deck.rig with
  | (.error _, rig) => ({ loop with deck := { loop.deck with rig } }).failToPlay
  | (.ok (), rig) =>
    { loop with
      deck := { loop.deck with rig, status := { loop.deck.status with playing := true } }
      state := if loop.state = .built then .playing else loop.state
      phase := .listening }

end Loop

end StandbyStream
