import StandbyStream.Topology

/-!
# Soundness of topologies

The structural check of a graph: unique names, links between known stages, one
sink, the switch that the mode calls for, the right number of inputs and
outputs of every stage, no cycle, and a way to the sink from everywhere. The
first defect in this order is reported.
-/

namespace StandbyStream.Topology

/-- What is wrong with a graph. -/
inductive Defect where
  | duplicateName (name : String)
  | unknownEnd (link : Link) (name : String)
  | noSink
  | severalSinks (count : Nat)
  | wrongSwitches (mode : Mode) (count : Nat)
  | sourceWithInputs (name : String)
  | switchUnderfed (name : String)
  | wrongInputs (name : String) (count : Nat)
  | sinkWithOutputs (name : String)
  | wrongOutputs (name : String) (count : Nat)
  | cycle
  | cutOff (name sink : String)
  | noLiveSource
  deriving DecidableEq, Repr

/-- The wording of a defect. -/
def Defect.message : Defect → String
  | .duplicateName name => "duplicate stage name '" ++ name ++ "'"
  | .unknownEnd link name =>
    "link " ++ link.source ++ " -> " ++ link.target ++ " references unknown stage '" ++ name ++ "'"
  | .noSink => "topology has no sink"
  | .severalSinks count =>
    "topology has " ++ toString count ++ " sinks; exactly one is allowed"
  | .wrongSwitches mode count =>
    mode.name ++ " topology cannot have " ++ toString count ++ " input switches"
  | .sourceWithInputs name => "source '" ++ name ++ "' cannot have inputs"
  | .switchUnderfed name => "switch '" ++ name ++ "' needs at least two inputs"
  | .wrongInputs name count =>
    "stage '" ++ name ++ "' has " ++ toString count ++ " inputs; expected one"
  | .sinkWithOutputs name => "sink '" ++ name ++ "' cannot have outputs"
  | .wrongOutputs name count =>
    "stage '" ++ name ++ "' has " ++ toString count ++ " outputs; expected one"
  | .cycle => "topology contains a cycle"
  | .cutOff name sink => "stage '" ++ name ++ "' does not reach sink '" ++ sink ++ "'"
  | .noLiveSource => "live topology has no live source"

instance : Explains Defect where
  chain defect := [defect.message]

/-! ## Names, links, counts -/

/-- The first stage whose name has been used before. -/
def duplicate? (seen : List String) : List Stage → Option String
  | [] => none
  | stage :: rest =>
    if stage.name ∈ seen then some stage.name else duplicate? (stage.name :: seen) rest

/-- The first end of a link that is no stage. -/
def unknownEnd? (names : List String) : List Link → Option (Link × String)
  | [] => none
  | link :: rest =>
    if link.source ∉ names then some (link, link.source)
    else if link.target ∉ names then some (link, link.target)
    else unknownEnd? names rest

/-- No two stages have the same name. -/
def checkNames (t : Topology) : Except Defect Unit :=
  match duplicate? [] t.stages with
  | some name => .error (.duplicateName name)
  | none => .ok ()

/-- Every link joins two stages. -/
def checkEnds (t : Topology) : Except Defect Unit :=
  match unknownEnd? (t.stages.map (·.name)) t.links with
  | some (link, name) => .error (.unknownEnd link name)
  | none => .ok ()

/-- The one sink. -/
def soleSink (t : Topology) : Except Defect Stage :=
  match t.stages.filter (·.kind == .sink) with
  | [sink] => .ok sink
  | [] => .error .noSink
  | sinks => .error (.severalSinks sinks.length)

/-- A live graph has one switch, a graph without live input has none. -/
def checkSwitches (t : Topology) : Except Defect Unit :=
  let count := t.stages.countP (·.kind == .switch)
  let wanted := match t.mode with
    | .live => 1
    | .fallbackOnly => 0
  if count = wanted then .ok () else .error (.wrongSwitches t.mode count)

/-- A source has no input, a switch two or more, every other stage one. -/
def checkInputs (t : Topology) (stage : Stage) : Except Defect Unit :=
  let inputs := t.fanIn stage.name
  match stage.kind with
  | .source => if inputs = 0 then .ok () else .error (.sourceWithInputs stage.name)
  | .switch => if 2 ≤ inputs then .ok () else .error (.switchUnderfed stage.name)
  | _ => if inputs = 1 then .ok () else .error (.wrongInputs stage.name inputs)

/-- A sink has no output, every other stage one. -/
def checkOutputs (t : Topology) (stage : Stage) : Except Defect Unit :=
  let outputs := (t.outputs stage.name).length
  match stage.kind with
  | .sink => if outputs = 0 then .ok () else .error (.sinkWithOutputs stage.name)
  | _ => if outputs = 1 then .ok () else .error (.wrongOutputs stage.name outputs)

/-- A stage has the inputs and outputs that its kind asks for. -/
def checkFans (t : Topology) (stage : Stage) : Except Defect Unit := do
  t.checkInputs stage
  t.checkOutputs stage

/-! ## Order -/

/-- Ordering of the stages in progress: the inputs that each stage still waits for, the stages
that wait for none, and the number of stages already ordered. -/
structure Ordering where
  pending : List (String × Nat)
  ready : List String
  ordered : Nat
  deriving DecidableEq, Repr

/-- Lowers the count of a stage that has been waiting. -/
def lower (name : String) (pending : List (String × Nat)) : List (String × Nat) :=
  pending.map fun (other, count) => if other == name then (other, count - 1) else (other, count)

namespace Ordering

/-- One input less to wait for; a stage that waits for nothing more is ready. -/
def release (o : Ordering) (name : String) : Ordering :=
  let pending := lower name o.pending
  if pending.lookup name = some 0 then { o with pending, ready := o.ready ++ [name] }
  else { o with pending }

/-- Orders a stage that is ready; `rest` is what else is ready. -/
def place (t : Topology) (o : Ordering) (name : String) (rest : List String) : Ordering :=
  (t.outputs name).foldl release { o with ready := rest, ordered := o.ordered + 1 }

/-- Orders the stage that has been ready longest. -/
def advance (t : Topology) (o : Ordering) : Ordering :=
  match o.ready with
  | [] => o
  | name :: rest => place t o name rest

/-- Nothing is ordered; the stages without inputs are ready. -/
def start (t : Topology) : Ordering :=
  let pending := t.stages.map fun stage => (stage.name, t.fanIn stage.name)
  ⟨pending, (pending.filter (·.2 == 0)).map (·.1), 0⟩

/-- Orders at most `steps` stages. -/
def run (t : Topology) : Nat → Ordering → Ordering
  | 0, o => o
  | steps + 1, o => run t steps (advance t o)

end Ordering

/-- Orders stages until none is ready any more. Each is ordered at most once, so the number of
stages bounds the steps. -/
def ordering (t : Topology) : Ordering :=
  Ordering.run t t.stages.length (Ordering.start t)

/-- No stage is left over. One that is would be part of a cycle, or behind one. -/
def checkOrder (t : Topology) (o : Ordering) : Except Defect Unit :=
  if o.ordered = t.stages.length then .ok () else .error .cycle

/-- Where the first outputs lead from a stage, within `steps` links; `none` if still further. -/
def lastStop (t : Topology) : Nat → String → Option String
  | steps, name =>
    match (t.outputs name).head?, steps with
    | none, _ => some name
    | some _, 0 => none
    | some next, steps + 1 => lastStop t steps next

/-- The first outputs lead from the stage to the sink. -/
def checkReach (t : Topology) (sink stage : Stage) : Except Defect Unit :=
  match lastStop t t.stages.length stage.name with
  | none => .error .cycle
  | some name => if name = sink.name then .ok () else .error (.cutOff stage.name sink.name)

/-! ## The check -/

/-- A live graph has a source for live frames. -/
def checkLive (t : Topology) : Except Defect Unit :=
  if t.mode = .live → t.liveSource?.isSome then .ok () else .error .noLiveSource

/-- Reports the first defect of a graph whose stages were ordered as far as they can be. -/
def checkOrdered (t : Topology) (o : Ordering) : Except Defect Unit := do
  t.checkNames
  t.checkEnds
  let sink ← t.soleSink
  t.checkSwitches
  t.stages.forM t.checkFans
  t.checkOrder o
  t.stages.forM (t.checkReach sink)
  t.checkLive

/-- Reports the first defect of a graph. -/
def check (t : Topology) : Except Defect Unit :=
  t.checkOrdered t.ordering

end StandbyStream.Topology
