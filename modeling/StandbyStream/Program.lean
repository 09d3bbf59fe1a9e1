import StandbyStream.CommandLine
import StandbyStream.Memory
import StandbyStream.Report

/-!
# Programs

How a program ends: well, with a failure that it reports, cut short for want of
memory, or without having begun because its arguments are wrong or ask for help.
-/

namespace StandbyStream

/-- How a program ends. -/
inductive Ending where
  | done
  | halted (reason : CommandLine.Halt)
  /-- With a failure, by its report. -/
  | failed (report : String)
  /-- Without a report of its own, since a piece of memory was not to be had. -/
  | cutShort (shortage : Memory.Shortage)
  deriving DecidableEq, Repr

namespace Ending

/-- The number that a program leaves to whoever called it. -/
def exitCode : Ending → Nat
  | .done => 0
  | .halted .help => 0
  | .halted .usage => 2
  | .failed _ => 1
  | .cutShort .unaddressable => 101
  | .cutShort (.exhausted _) => 134

/-- What a program says about its failure. -/
def report? : Ending → Option String
  | .failed report => some report
  | _ => none

/-- The end that a failure brings about. -/
def ofFailure {ε : Type} [Explains ε] (failure : ε) : Ending :=
  .failed (Report.full failure)

end Ending

end StandbyStream
