/-!
# Log

What a program says about its work while it goes on.
-/

namespace StandbyStream

/-- How much a log entry matters. -/
inductive Level where
  | info
  | warning
  | error
  deriving DecidableEq, Repr

/-- The name of a level in the log. -/
def Level.name : Level → String
  | .info => "INFO"
  | .warning => "WARN"
  | .error => "ERROR"

/-- A line of the log. -/
structure LogEntry where
  level : Level
  text : String
  deriving DecidableEq, Repr

end StandbyStream
