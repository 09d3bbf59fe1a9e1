import StandbyStream.Frame
import StandbyStream.Text.Blank
import StandbyStream.Text.Utf8

/-!
# Environment

The variables that a program is run with. A value is a sequence of bytes and
need not be a text.
-/

namespace StandbyStream

/-- The variables with their values. -/
structure Environment where
  bindings : List (String × Bytes)
  deriving Repr

namespace Environment

/-- No variable is set. -/
def empty : Environment :=
  ⟨[]⟩

/-- The value of a variable. -/
def get? (env : Environment) (name : String) : Option Bytes :=
  env.bindings.lookup name

/-- The value of a variable, if it is a text. -/
def text? (env : Environment) (name : String) : Option String :=
  (env.get? name).bind Text.decodeUtf8?

/-- The value of a variable, if it is a text that is not blank. -/
def filled? (env : Environment) (name : String) : Option String :=
  (env.text? name).filter fun value => !Text.isAllBlank value

end Environment

end StandbyStream
