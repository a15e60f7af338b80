/-
The six comparisons of two operands, against one another.  All of them read one
order, which there is where both operands stand for a scalar and the two are of
one kind, and which turns around with the operands.
-/
import JsonSelect.Proofs.Number.Comparison
import JsonSelect.Proofs.Selection.Predicates
import Mathlib

namespace JsonSelect

namespace Comparison

/-- The comparison that says the same from the other side. -/
def mirrored : Comparison → Comparison
  | equal => equal
  | notEqual => notEqual
  | less => greater
  | lessOrEqual => greaterOrEqual
  | greater => less
  | greaterOrEqual => lessOrEqual

theorem holds_mirrored_swap (comparison : Comparison) (order : Ordering) :
    comparison.mirrored.holds order.swap = comparison.holds order := by
  cases comparison <;> cases order <;> rfl

/-- Less, equal and greater exclude each other, and one of them holds. -/
theorem existsUnique_holds (order : Ordering) :
    ∃! comparison, comparison ∈ [less, equal, greater] ∧
      comparison.holds order = true := by
  have hlisted : ∃ comparison ∈ [less, equal, greater], comparison.holds order = true ∧
      ∀ other ∈ [less, equal, greater], other.holds order = true →
        other = comparison := by
    cases order <;> decide
  obtain ⟨comparison, hmem, hholds, hunique⟩ := hlisted
  exact ⟨comparison, ⟨hmem, hholds⟩, fun other hother => hunique other hother.1 hother.2⟩

end Comparison

namespace Scalar

theorem isSome_cmp?_iff (s t : Scalar) :
    (s.cmp? t).isSome = true ↔ (Json.ofScalar s).kind = (Json.ofScalar t).kind := by
  cases s <;> cases t <;> simp [cmp?, Json.ofScalar, Json.kind]

theorem map_swap_cmp? (s t : Scalar) : (s.cmp? t).map Ordering.swap = t.cmp? s := by
  cases s <;> cases t
  case bool.bool a b => exact congrArg some Std.OrientedOrd.eq_swap.symm
  case number.number a b => exact congrArg some (a.cmp_swap b)
  case string.string a b => exact congrArg some Std.OrientedOrd.eq_swap.symm
  all_goals rfl

end Scalar

namespace Operand

variable (root current : Json) (left right : Operand)

/-- Each of the two has one value, and the values are scalars of one kind. -/
def Comparable : Prop :=
  ∃ s t : Scalar, left.values root current = [.ofScalar s] ∧
    right.values root current = [.ofScalar t] ∧
      (Json.ofScalar s).kind = (Json.ofScalar t).kind

/-- How the two stand to each other, if at all. -/
def order? : Option Ordering :=
  (left.scalar? root current).bind fun s => (right.scalar? root current).bind s.cmp?

theorem isSome_order?_iff :
    (order? root current left right).isSome = true ↔
      Comparable root current left right := by
  simp only [order?, Comparable, ← scalar?_eq_some_iff, ← Scalar.isSome_cmp?_iff]
  cases left.scalar? root current <;> cases right.scalar? root current <;> simp

theorem map_swap_order? :
    (order? root current left right).map Ordering.swap =
      order? root current right left := by
  rw [order?, order?]
  cases left.scalar? root current <;> cases right.scalar? root current
  case some.some s t => exact s.map_swap_cmp? t
  all_goals rfl

end Operand

namespace Predicate

variable (root current : Json) (left right : Operand)

/-- A comparison reads the order of its operands. -/
theorem holds_compare_eq_any (comparison : Comparison) :
    (compare comparison left right).holds root current =
      (Operand.order? root current left right).any comparison.holds := by
  rw [holds, Operand.order?]
  cases left.scalar? root current <;> cases right.scalar? root current <;> rfl

/-- Between two numbers it reads how the words that hold both compare. -/
theorem holds_compare_numbers (a b : Number)
    (hleft : left.values root current = [.number a])
    (hright : right.values root current = [.number b]) (comparison : Comparison) :
    (compare comparison left right).holds root current =
      comparison.holds (a.cmpByWidth b) := by
  rw [Bool.eq_iff_iff, Number.holds_compare_numbers_iff hleft hright,
    Comparison.holds_iff, Number.cmpByWidth_eq_cmp]

/-- Of less, equal and greater, exactly one holds between operands that stand for
scalars of one kind; between others, no comparison holds.  The other three are told by
these, always, and a comparison says the same as its mirror image does with the operands
exchanged.  So it is between numbers too, whichever words hold them. -/
theorem compare_trichotomy :
    let holds := fun comparison => (compare comparison left right).holds root current
    (Operand.Comparable root current left right →
        ∃! comparison, comparison ∈ [.less, .equal, .greater] ∧ holds comparison = true) ∧
      (¬ Operand.Comparable root current left right →
        ∀ comparison, holds comparison = false) ∧
      holds .notEqual = (holds .less || holds .greater) ∧
      holds .lessOrEqual = (holds .less || holds .equal) ∧
      holds .greaterOrEqual = (holds .greater || holds .equal) ∧
      (∀ comparison,
        holds comparison = (compare comparison.mirrored right left).holds root current) ∧
      ∀ a b : Number, left.values root current = [.number a] →
        right.values root current = [.number b] →
          ∀ comparison, holds comparison = comparison.holds (a.cmpByWidth b) := by
  have hnumbers := holds_compare_numbers root current left right
  simp only [holds_compare_eq_any, ← Operand.isSome_order?_iff,
    ← Operand.map_swap_order? root current left right] at hnumbers ⊢
  generalize Operand.order? root current left right = order? at hnumbers ⊢
  cases order? with
  | none => exact ⟨nofun, fun _ _ => rfl, rfl, rfl, rfl, fun _ => rfl, hnumbers⟩
  | some order =>
      refine ⟨fun _ => ?_, fun hnone => absurd rfl hnone, ?_, ?_, ?_,
        fun comparison => ?_, hnumbers⟩
      · exact Comparison.existsUnique_holds order
      · cases order <;> rfl
      · cases order <;> rfl
      · cases order <;> rfl
      · exact (comparison.holds_mirrored_swap order).symm

-- Scalars of two kinds are neither equal nor different.
example : ∀ comparison ∈ [Comparison.equal, .notEqual],
    (compare comparison (.literal .null) (.literal (.bool true))).holds .null .null =
      false := by
  decide

end Predicate

end JsonSelect
