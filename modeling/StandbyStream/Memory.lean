import StandbyStream.Report

/-!
# Memory

Room is set aside in one piece. A piece that cannot be addressed is to be had on
no machine, and one that can be may still be more than a machine has to give.
Whoever asks for a piece that is not to be had is cut short.
-/

namespace StandbyStream

/-- The memory of a machine. -/
structure Memory where
  /-- Length of the longest piece that the machine gives, in bytes. -/
  longest : Nat
  deriving DecidableEq, Repr

namespace Memory

/-- Why a piece is not to be had. -/
inductive Shortage where
  | unaddressable
  | exhausted (bytes : Nat)
  deriving DecidableEq, Repr

instance : Explains Shortage where
  chain
    | .unaddressable => ["capacity overflow"]
    | .exhausted bytes => ["memory allocation of " ++ toString bytes ++ " bytes failed"]

/-- Length of the longest piece that can be addressed, in bytes. -/
def maxLength : Nat :=
  Nat.pow 2 63 - 1

/-- The memory of a machine that gives whatever can be addressed. -/
def ample : Memory := ⟨maxLength⟩

/-- A piece of so many bytes is to be had. -/
def Gives (memory : Memory) (bytes : Nat) : Prop :=
  bytes ≤ maxLength ∧ bytes ≤ memory.longest

instance (memory : Memory) (bytes : Nat) : Decidable (memory.Gives bytes) :=
  inferInstanceAs (Decidable (_ ∧ _))

/-- Sets a piece of so many bytes aside. -/
def reserve (memory : Memory) (bytes : Nat) : Except Shortage Unit :=
  if maxLength < bytes then .error .unaddressable
  else if memory.longest < bytes then .error (.exhausted bytes)
  else .ok ()

end Memory

end StandbyStream
