import StandbyStream.Engine

/-!
# The recorder

A media engine that does nothing but record its calls, each with the number of
the pipeline it went to, and fails where a fault is set. It raises no events.
-/

namespace StandbyStream

/-- A call to the recorder. -/
inductive Call where
  | instantiate (mode : Mode) (destination : Destination)
  | play
  | halt
  | push (buffer : Buffer)
  | endOfStream
  | select (input : Input)
  | disconnectDemand
  deriving DecidableEq, Repr

/-- What is to fail, and how. -/
structure RecorderFaults where
  missing : List String
  instantiate : Option String
  play : Option String
  halt : Option String
  select : Option String
  push : Option FlowError
  endOfStream : Option FlowError
  deriving DecidableEq, Repr

/-- Nothing fails. -/
def RecorderFaults.none : RecorderFaults :=
  ⟨[], .none, .none, .none, .none, .none, .none⟩

/-- The recorder: its faults and its calls, the oldest first, with the pipelines they went to. -/
structure Recorder where
  faults : RecorderFaults
  log : List (Nat × Call)
  /-- Number of pipelines asked for. -/
  pipelines : Nat
  deriving DecidableEq, Repr

namespace Recorder

/-- A recorder with nothing recorded. -/
def withFaults (faults : RecorderFaults) : Recorder :=
  ⟨faults, [], 0⟩

/-- Records a call. -/
def note (recorder : Recorder) (pipeline : Nat) (call : Call) : Recorder :=
  { recorder with log := recorder.log ++ [(pipeline, call)] }

/-- Records a call to the pipeline at hand. -/
def noteOn (rig : Rig Recorder Nat) (call : Call) : Rig Recorder Nat :=
  { rig with engine := rig.engine.note rig.pipeline call }

/-- The result of a call that fails with a text if one is set. -/
def textFault : Option String → Except Plain Unit
  | some message => .error ⟨message⟩
  | none => .ok ()

/-- The result of a call that fails with a flow error if one is set. -/
def flowFault : Option FlowError → Except FlowError Unit
  | some fault => .error fault
  | none => .ok ()

/-- Pipelines are numbered in the order in which they are asked for. -/
def instantiate (t : Topology) (recorder : Recorder) : Except Plain Nat × Recorder :=
  let id := recorder.pipelines
  let recorder := { recorder.note id (.instantiate t.mode t.destination) with pipelines := id + 1 }
  match recorder.faults.instantiate with
  | some message => (.error ⟨message⟩, recorder)
  | none => (.ok id, recorder)

end Recorder

instance : MediaEngine Recorder Nat where
  name _ := "scripted"
  hasFactory recorder factory := !recorder.faults.missing.contains factory
  instantiate := Recorder.instantiate
  play rig := (Recorder.textFault rig.engine.faults.play, Recorder.noteOn rig .play)
  halt rig := (Recorder.textFault rig.engine.faults.halt, Recorder.noteOn rig .halt)
  push buffer rig :=
    (Recorder.flowFault rig.engine.faults.push, Recorder.noteOn rig (.push buffer))
  endOfStream rig :=
    (Recorder.flowFault rig.engine.faults.endOfStream, [], Recorder.noteOn rig .endOfStream)
  select input rig :=
    (Recorder.textFault rig.engine.faults.select, Recorder.noteOn rig (.select input))
  disconnectDemand rig := Recorder.noteOn rig .disconnectDemand
  raiseDemand? _ := none

end StandbyStream
