import StandbyStream.Engine.Simulator
import StandbyStream.Text.Lowercase

/-!
# Choice of the engine

The engines that can be asked for by name. Only the simulator is part of this
library.
-/

namespace StandbyStream

/-- An engine by its name. -/
inductive EngineChoice where
  | simulated
  | gstreamer
  deriving DecidableEq, Repr

namespace EngineChoice

/-- The simulator, where nothing else is asked for. -/
instance : Inhabited EngineChoice := ⟨.simulated⟩

/-- The name of a choice. -/
def name : EngineChoice → String
  | .simulated => "simulated"
  | .gstreamer => "gstreamer"

/-- A text that names no engine, in its folded form. -/
structure Unknown where
  text : String
  deriving DecidableEq, Repr

instance : Explains Unknown where
  chain fault :=
    ["unknown media backend '" ++ fault.text ++ "': expected 'simulated' or 'gstreamer'"]

/-- Reads a choice by any of its names, whatever their margin and letter case. -/
def parse (s : String) : Except Unknown EngineChoice :=
  let word := Text.fold s
  if word ∈ ["simulated", "sim", "stub"] then .ok .simulated
  else if word ∈ ["gstreamer", "gst"] then .ok .gstreamer
  else .error ⟨word⟩

/-- An engine that is not part of the program. -/
inductive Unsupported where
  | gstreamer
  deriving DecidableEq, Repr

instance : Explains Unsupported where
  chain
    | .gstreamer =>
      ["media backend 'gstreamer' requires the 'backend-gstreamer' feature.\n" ++
        "Recompile with: cargo build --features backend-gstreamer\n" ++
        "Or set STREAMER_BACKEND=simulated."]

/-- The choice can be served. -/
def checkSupport : EngineChoice → Except Unsupported Unit
  | .simulated => .ok ()
  | .gstreamer => .error .gstreamer

/-- A fresh engine of the chosen kind. -/
def create (choice : EngineChoice) : Except Unsupported Simulator :=
  choice.checkSupport.map fun () => .flawless

end EngineChoice

end StandbyStream
