import StandbyStream.Text.Cut

/-!
# Failure reports

A failure is explained by a chain of messages, the outermost first. It is shown
either on one line or, at the end of a program, as a report with its causes
indented below it.
-/

namespace StandbyStream

/-- A kind of failure that explains itself by a chain of messages, outermost first. -/
class Explains (ε : Type) where
  chain : ε → List String

/-- A failure known only by its one message. -/
structure Plain where
  message : String
  deriving DecidableEq, Repr

instance : Explains Plain where
  chain failure := [failure.message]

namespace Report

/-- The whole chain on one line. -/
def line {ε : Type} [Explains ε] (failure : ε) : String :=
  ": ".intercalate (Explains.chain failure)

/-- A message whose further lines are indented by `margin`. -/
def indented (first margin : String) (message : String) : String :=
  first ++ ("\n" ++ margin).intercalate
    ((Text.splitAtEach '\n' message.toList).map String.ofList)

/-- A number right-aligned in five columns. -/
def ordinal (n : Nat) : String :=
  let digits := toString n
  String.ofList (List.replicate (5 - digits.length) ' ') ++ digits

/-- The causes below the headline: one alone is indented, several are counted from zero. -/
def causes : List String → String
  | [] => ""
  | [cause] => "\n\nCaused by:\n" ++ indented "    " "    " cause
  | several =>
    "\n\nCaused by:" ++ String.join
      (several.zipIdx.map fun (cause, n) => "\n" ++ indented (ordinal n ++ ": ") "       " cause)

/-- The closing report of a program that failed. -/
def full {ε : Type} [Explains ε] (failure : ε) : String :=
  match Explains.chain failure with
  | [] => "Error: \n"
  | headline :: rest => "Error: " ++ headline ++ causes rest ++ "\n"

end Report

end StandbyStream
