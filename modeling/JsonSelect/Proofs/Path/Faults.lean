/-
What is told of a text that is no path.  The reader of paths either takes a path
off the front or fails with a fault, and what it takes is a path by itself.
-/
import JsonSelect.Proofs.Path.Parse
import JsonSelect.Proofs.Path.Within
import Mathlib

namespace JsonSelect.Path

open Grammar Reader

/-! Failures at the front -/

namespace Outcome

variable {α β : Type}

/-- A value, or a failure that a fault is told of. -/
def Settled : Outcome α → Prop
  | .ok _ _ => True
  | .miss => False
  | .fail fault => fault.isSome

theorem Settled.map {outcome : Outcome α} (h : outcome.Settled) (f : α → β) :
    (outcome.map f).Settled := by
  cases outcome with
  | ok value rest => trivial
  | miss => exact h
  | fail fault => exact h

theorem Settled.bind {outcome : Outcome α} (h : outcome.Settled) {next : α → Reader β}
    (hnext : ∀ value rest, (next value rest).Settled) : (outcome.bind next).Settled := by
  cases outcome with
  | ok value rest => exact hnext value rest
  | miss => exact h
  | fail fault => exact h

end Outcome

section Front

variable (predicate : Reader Predicate)

end Front

/-! What is left over -/

end JsonSelect.Path
