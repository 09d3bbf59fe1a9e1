import StandbyStream.Caps

/-!
# Stages

A stage of a pipeline: its name, the factory that makes it, what it does, the
branch it belongs to, and its properties in order.
-/

namespace StandbyStream

/-- What a stage does. -/
inductive StageKind where
  | source
  | filter
  | overlay
  | encoder
  | parser
  | payloader
  | sink
  | switch
  | identity
  | queue
  deriving DecidableEq, Repr

/-- The name of a kind. -/
def StageKind.name : StageKind → String
  | .source => "Source"
  | .filter => "Filter"
  | .overlay => "Overlay"
  | .encoder => "Encoder"
  | .parser => "Parser"
  | .payloader => "Payloader"
  | .sink => "Sink"
  | .switch => "Switch"
  | .identity => "Identity"
  | .queue => "Queue"

/-- All kinds. -/
def StageKind.all : List StageKind :=
  [.source, .filter, .overlay, .encoder, .parser, .payloader, .sink, .switch, .identity, .queue]

/-- Which part of the graph a stage belongs to: one of the two inputs, or what follows them. -/
inductive Branch where
  | live
  | fallback
  | tail
  deriving DecidableEq, Repr

/-- The name of a branch. -/
def Branch.name : Branch → String
  | .live => "Live"
  | .fallback => "Fallback"
  | .tail => "Tail"

/-- All branches. -/
def Branch.all : List Branch :=
  [.live, .fallback, .tail]

/-- The value of a stage property. -/
inductive Property where
  | bool (value : Bool)
  | int (value : Int)
  | text (value : String)
  | caps (value : Caps)
  deriving DecidableEq, Repr

/-- The written form of a value. -/
def Property.render : Property → String
  | .bool value => toString value
  | .int value => toString value
  | .text value => value
  | .caps value => value.render

/-- A stage of a pipeline. -/
structure Stage where
  name : String
  factory : String
  kind : StageKind
  branch : Branch
  properties : List (String × Property)
  deriving DecidableEq, Repr

namespace Stage

/-- A stage without properties. -/
def plain (name factory : String) (kind : StageKind) (branch : Branch) : Stage :=
  ⟨name, factory, kind, branch, []⟩

/-- Appends a property. -/
def set (stage : Stage) (name : String) (value : Property) : Stage :=
  { stage with properties := stage.properties ++ [(name, value)] }

/-- The value of the first property with the name. -/
def property? (stage : Stage) (name : String) : Option Property :=
  stage.properties.lookup name

/-- The stage with its factory, as graphs are written. -/
def label (stage : Stage) : String :=
  stage.name ++ "(" ++ stage.factory ++ ")"

end Stage

end StandbyStream
