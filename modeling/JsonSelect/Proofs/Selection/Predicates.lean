/-
What one predicate says, told from the values of its operands.  Operands are
walked only as far as an answer needs; what they then yield is here put in terms
of all their values, for each kind of predicate.
-/
import Mathlib
import JsonSelect.Proofs.Selection.Queries

namespace JsonSelect

/-- What a comparison says of two values, the first of which is before, equal to or
after the second. -/
def Comparison.Says (before same after : Prop) : Comparison → Prop
  | equal => same
  | notEqual => before ∨ after
  | less => before
  | lessOrEqual => before ∨ same
  | greater => after
  | greaterOrEqual => after ∨ same

/-- What a comparison decides between two values. -/
def Comparison.decides (comparison : Comparison) (a b : Json) : Bool :=
  match a.scalar?, b.scalar? with
  | some s, some t => (s.cmp? t).any comparison.holds
  | _, _ => false

/-- A scalar as a value of a document. -/
def Json.ofScalar : Scalar → Json
  | .null => .null
  | .bool value => .bool value
  | .number value => .number value
  | .string value => .string value

namespace Comparison

theorem holds_iff (comparison : Comparison) (order : Ordering) :
    comparison.holds order = true ↔
      comparison.Says (order = .lt) (order = .eq) (order = .gt) := by
  cases comparison <;> cases order <;> simp [holds, Says]

theorem holds_iff_order {α : Type} [LinearOrder α] (comparison : Comparison) (a b : α) :
    comparison.holds (compare a b) = true ↔ comparison.Says (a < b) (a = b) (b < a) := by
  rw [holds_iff, compare_lt_iff_lt, compare_eq_iff_eq, compare_gt_iff_gt]

end Comparison

theorem Json.scalar?_eq_some_iff {value : Json} {scalar : Scalar} :
    value.scalar? = some scalar ↔ value = .ofScalar scalar := by
  cases value <;> cases scalar <;> simp [Json.scalar?, Json.ofScalar]

theorem Comparison.decides_iff {comparison : Comparison} {a b : Json} :
    comparison.decides a b = true ↔
      ∃ s t, a = .ofScalar s ∧ b = .ofScalar t ∧
        (s.cmp? t).any comparison.holds = true := by
  simp only [← Json.scalar?_eq_some_iff]
  rw [decides]
  cases a.scalar? <;> cases b.scalar? <;> simp

/-! One operand, one predicate -/

/-- The values of an operand by the matches of its path. -/
def Operand.values (root : Json) : Operand → Json → List Json
  | .literal value, _ => [.ofScalar value]
  | .path anchor steps, current => Step.values root steps (anchor.start root current)

/-- An operand stands for a scalar if that is its only value. -/
theorem Operand.scalar?_eq_some_iff {root current : Json} {operand : Operand}
    {scalar : Scalar} :
    operand.scalar? root current = some scalar ↔
      operand.values root current = [.ofScalar scalar] := by
  cases operand with
  | literal value =>
      rw [Operand.scalar?, values, Option.some.injEq, List.cons.injEq,
        ← Json.scalar?_eq_some_iff]
      cases value <;> simp [Json.ofScalar, Json.scalar?]
  | path anchor steps =>
      rw [Operand.scalar?, values, Option.bind_eq_some_iff]
      simp only [onlyValue?_moves_eq_some_iff, Json.scalar?_eq_some_iff]
      constructor
      · rintro ⟨value, hvalues, rfl⟩
        exact hvalues
      · intro hvalues
        exact ⟨.ofScalar scalar, hvalues, rfl⟩

namespace Predicate

variable {root current : Json}

theorem holds_compare_iff {comparison : Comparison} {left right : Operand} :
    (compare comparison left right).holds root current = true ↔
      ∃ a b, left.values root current = [a] ∧ right.values root current = [b] ∧
        comparison.decides a b = true := by
  rw [holds]
  constructor
  · intro hholds
    cases hleft : left.scalar? root current with
    | none => simp [hleft] at hholds
    | some s =>
        cases hright : right.scalar? root current with
        | none => simp [hleft, hright] at hholds
        | some t =>
            rw [hleft, hright] at hholds
            exact ⟨.ofScalar s, .ofScalar t, Operand.scalar?_eq_some_iff.1 hleft,
              Operand.scalar?_eq_some_iff.1 hright,
              Comparison.decides_iff.2 ⟨s, t, rfl, rfl, hholds⟩⟩
  · rintro ⟨a, b, hleft, hright, hdecides⟩
    obtain ⟨s, t, rfl, rfl, hany⟩ := Comparison.decides_iff.1 hdecides
    rw [Operand.scalar?_eq_some_iff.2 hleft, Operand.scalar?_eq_some_iff.2 hright]
    exact hany

theorem holds_matching_iff {operand : Operand} {pattern : Pattern} :
    (matching operand pattern).holds root current = true ↔
      ∃ text, operand.values root current = [.string text] ∧
        pattern.occursIn text = true := by
  rw [holds]
  constructor
  · intro hholds
    cases hoperand : operand.scalar? root current with
    | none => simp [hoperand] at hholds
    | some s =>
        rw [hoperand] at hholds
        cases s with
        | string text => exact ⟨text, Operand.scalar?_eq_some_iff.1 hoperand, hholds⟩
        | null => cases hholds
        | bool _ => cases hholds
        | number _ => cases hholds
  · rintro ⟨text, hoperand, hoccurs⟩
    have hscalar : operand.scalar? root current = some (.string text) :=
      Operand.scalar?_eq_some_iff.2 hoperand
    rw [hscalar]
    exact hoccurs

theorem holds_bare_literal_iff {value : Scalar} :
    (bare (.literal value)).holds root current = true ↔
      value ≠ .null ∧ value ≠ .bool false := by
  rw [holds, Operand.isPresent]
  cases value <;> simp [Scalar.isTruthy]

theorem holds_bare_path_iff {anchor : Anchor} {steps : List Step} :
    (bare (.path anchor steps)).holds root current = true ↔
      (Operand.path anchor steps).values root current ≠ [] := by
  rw [holds, Operand.isPresent, reaches_moves_iff, Operand.values]

end Predicate

end JsonSelect
