/-!
# Sequences of checks

A sequence of checks reports the first fault. It succeeds exactly if each check in it does, on the
results of those before.
-/

namespace StandbyStream.Checks

variable {ε ε' α β : Type}

/-- Of two checks in sequence both have to succeed. -/
theorem bind_eq_ok {x : Except ε α} {f : α → Except ε β} {b : β} :
    (x >>= f) = .ok b ↔ ∃ a, x = .ok a ∧ f a = .ok b := by
  cases x <;> simp [bind, Except.bind]

/-- A check without a result is only followed by the next. -/
theorem seq_eq_ok {x : Except ε Unit} {f : Unit → Except ε β} {b : β} :
    (x >>= f) = .ok b ↔ x = .ok () ∧ f () = .ok b := by
  cases x <;> simp [bind, Except.bind]

/-- A list passes if all its members do. -/
theorem forM_eq_ok {xs : List α} {f : α → Except ε Unit} :
    xs.forM f = .ok () ↔ ∀ x ∈ xs, f x = .ok () := by
  induction xs with
  | nil => simp [List.forM, pure, Except.pure]
  | cons x xs ih =>
      change (f x >>= fun _ => xs.forM f) = _ ↔ _
      rw [seq_eq_ok, ih, List.forall_mem_cons]

/-- Another wording of the faults lets nothing else pass. -/
theorem mapError_eq_ok {x : Except ε α} {f : ε → ε'} {a : α} :
    x.mapError f = .ok a ↔ x = .ok a := by
  cases x with
  | error cause => exact iff_of_false nofun nofun
  | ok value =>
      change (.ok value : Except ε' α) = .ok a ↔ _
      rw [Except.ok.injEq, Except.ok.injEq]

/-- A condition that is checked holds of what passes. -/
theorem ite_eq_ok {p : Prop} [Decidable p] {fault : ε} :
    (if p then .ok () else .error fault : Except ε Unit) = .ok () ↔ p := by
  by_cases h : p <;> simp [h]

/-- Where a fault is not raised the checks go on. -/
theorem unless_eq_ok {p : Prop} [Decidable p] {fault : ε} {next : Unit → Except ε β} {b : β} :
    (if p then (throw fault >>= next) else next ()) = .ok b ↔ ¬ p ∧ next () = .ok b := by
  by_cases h : p <;> simp [h, throw, throwThe, MonadExceptOf.throw, bind, Except.bind]

theorem throw_eq_ok {p : Prop} [Decidable p] {fault : ε} :
    (if p then throw fault else pure () : Except ε Unit) = .ok () ↔ ¬ p := by
  by_cases h : p <;> simp [h, throw, throwThe, MonadExceptOf.throw, pure, Except.pure]

end StandbyStream.Checks
