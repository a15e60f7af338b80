/-
Indices as slices.  An index selects what the slice of that one position does:
an index outside of an array names nothing in it, and the slice, whose bounds
are moved into the array, becomes empty.
-/
import Mathlib
import JsonSelect.Proofs.Selection.Slices

namespace JsonSelect

theorem toInt_add_one {position : Int64} (hmax : position ≠ Int64.maxValue) :
    (position + 1).toInt = position.toInt + 1 := by
  have hlow := position.le_toInt
  have hhigh := position.toInt_lt
  have hne : position.toInt ≠ Int64.maxValue.toInt :=
    fun heq => hmax (Int64.toInt_inj.1 heq)
  rw [Int64.toInt_maxValue] at hne
  rw [Int64.toInt_add, Int64.toInt_one]
  exact Int.bmod_eq_of_le (by omega) (by omega)

namespace Slice

theorem unitStep_pos : (0 : Int64) < 1 := by decide

/-- The slice from a position to the next.  After the last element there is no next
position: the one after -1 would be the first. -/
def sole (position : Int64) : Slice :=
  ⟨some position, if position = -1 then none else some (position + 1), 1, unitStep_pos⟩

theorem sole_last : sole (-1) = ⟨some (-1), none, 1, unitStep_pos⟩ := rfl

theorem sole_of_ne {position : Int64} (hlast : position ≠ -1) :
    sole position = ⟨some position, some (position + 1), 1, unitStep_pos⟩ := by
  rw [sole, if_neg hlast]

/-- The slice of a position covers the place that the position names, if
that is inside. -/
theorem covers_sole {position : Int64} (hmax : position ≠ Int64.maxValue)
    {size place : Nat} (hinside : place < size) :
    (sole position).covers size place = true ↔
      (place : Int) = namedPlace position size := by
  have hstep : (sole position).step.toInt = 1 := rfl
  have hstart : (sole position).start = some position := rfl
  rw [covers_iff, hstep, hstart, Option.elim_some, and_iff_left (one_dvd _)]
  by_cases hlast : position = -1
  · rw [hlast, sole_last, Option.elim_none]
    have hnamed : namedPlace (-1) size = size - 1 := by
      rw [namedPlace]
      exact Int.add_comm (-1) size
    rw [clampedPlace, hnamed]
    omega
  · have hne : position.toInt ≠ (-1 : Int64).toInt :=
      fun heq => hlast (Int64.toInt_inj.1 heq)
    have hminus : (-1 : Int64).toInt = -1 := rfl
    rw [hminus] at hne
    rw [sole_of_ne hlast, Option.elim_some]
    unfold clampedPlace namedPlace
    rw [toInt_add_one hmax]
    split <;> split <;> omega

theorem places_sole {position : Int64} (hmax : position ≠ Int64.maxValue) (size : Nat) :
    (sole position).places size = (placeOfIndex? position size).toList := by
  apply List.SortedLT.eq_of_mem_iff (pairwise_places _ size).sortedLT
  · cases placeOfIndex? position size with
    | none => exact List.Pairwise.nil.sortedLT
    | some place => exact (List.pairwise_singleton _ place).sortedLT
  · intro place
    rw [← and_iff_right_of_imp lt_of_mem_places, mem_places_iff, Option.mem_toList,
      placeOfIndex?_eq_some_iff]
    exact and_congr_right fun hinside => covers_sole hmax hinside

-- From the last position to the one after it, which is the first, there is nothing.
example : places ⟨some (-1), some (-1 + 1), 1, unitStep_pos⟩ 3 = [] := by decide

end Slice

/-! One step for the other -/

theorem Json.childrenOfSlice_sole {position : Int64} (hmax : position ≠ Int64.maxValue)
    (value : Json) :
    value.childrenOfSlice (.sole position) = value.childAtPosition position := by
  cases value with
  | array elements =>
      rw [childrenOfSlice, childAtPosition, Slice.places_sole hmax]
      cases placeOfIndex? position elements.length with
      | none => rfl
      | some place => exact List.flatMap_singleton _ place
  | _ => rfl

theorem Step.move_sole {position : Int64} (hmax : position ≠ Int64.maxValue)
    (root : Json) :
    (Step.slice (.sole position)).move root = (Step.index position).move root := by
  rw [move, move, funext (Json.childrenOfSlice_sole hmax)]

/-- Where two steps make the same move, one can stand for the other in a list of steps. -/
theorem Step.moves_exchange {root : Json} {step step' : Step}
    (hmove : step.move root = step'.move root) (front back : List Step) :
    Step.moves root (front ++ step :: back) =
      Step.moves root (front ++ step' :: back) := by
  induction front with
  | nil => rw [List.nil_append, List.nil_append, moves, moves, hmove]
  | cons first front ih => rw [List.cons_append, List.cons_append, moves, moves, ih]

namespace Path

theorem queryLocated_exchange {document : Json} {step step' : Step}
    (hmove : step.move document = step'.move document) (front back : List Step) :
    queryLocated ⟨front ++ step :: back⟩ document =
      queryLocated ⟨front ++ step' :: back⟩ document := by
  rw [queryLocated, queryLocated, fold, fold, moves, moves, Step.moves_exchange hmove]

/-- Whatever steps are before and after it, an index finds the same matches as the
slice from it to the next position, and the last index the same as the slice from
it to the end. -/
theorem queryLocated_index_eq_slice (front back : List Step) (document : Json) :
    (∀ position : Int64, position ≠ -1 → position ≠ Int64.maxValue →
      queryLocated ⟨front ++ .index position :: back⟩ document =
        queryLocated
          ⟨front ++ .slice ⟨some position, some (position + 1), 1, Slice.unitStep_pos⟩ ::
            back⟩ document) ∧
    queryLocated ⟨front ++ .index (-1) :: back⟩ document =
      queryLocated ⟨front ++ .slice ⟨some (-1), none, 1, Slice.unitStep_pos⟩ :: back⟩
        document := by
  constructor
  · intro position hlast hmax
    rw [← Slice.sole_of_ne hlast]
    exact (queryLocated_exchange (Step.move_sole hmax document) front back).symm
  · rw [← Slice.sole_last]
    exact (queryLocated_exchange (Step.move_sole (by decide) document) front back).symm

/-- The least position, which is in no array, and the last but one, below every value. -/
theorem queryLocated_index_eq_slice_descent :
    Int64.minValue ≠ -1 ∧ Int64.minValue ≠ Int64.maxValue ∧
    (-2 : Int64) ≠ -1 ∧ (-2 : Int64) ≠ Int64.maxValue ∧
    queryLocated
      ⟨[.descent, .slice ⟨some .minValue, some (.minValue + 1), 1, Slice.unitStep_pos⟩]⟩
        (.array [.null]) = [] ∧
    queryLocated ⟨[.descent, .slice ⟨some (-2), some (-2 + 1), 1, Slice.unitStep_pos⟩]⟩
        (.array [.null, .array [.bool true, .null], .null]) =
      [⟨[.index 1], .array [.bool true, .null]⟩, ⟨[.index 1, .index 0], .bool true⟩] := by
  refine ⟨by decide, by decide, by decide, by decide, ?_, ?_⟩
  · refine ((queryLocated_index_eq_slice [.descent] [] _).1 .minValue ?_ ?_).symm.trans ?_
    · decide
    · decide
    · cbv
  · refine ((queryLocated_index_eq_slice [.descent] [] _).1 (-2) ?_ ?_).symm.trans ?_
    · decide
    · decide
    · cbv

end Path

end JsonSelect
