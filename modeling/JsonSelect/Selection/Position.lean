/-
Positions in arrays.  They count from the start, or, if they are negative, from
the end.  An index outside the array selects nothing; the bounds of a slice are
moved into it.
-/
import JsonSelect.Path.Basic

namespace JsonSelect

/-- The place of an index in an array of the given size, if it is inside. -/
def placeOfIndex? (position : Int64) (size : Nat) : Option Nat :=
  let i := position.toInt
  if i < 0 then if i.natAbs ≤ size then some (size - i.natAbs) else none
  else if i.natAbs < size then some i.natAbs else none

/-- The place of a bound in an array of the given size, or the nearest one. -/
def placeOfBound (position : Int64) (size : Nat) : Nat :=
  let i := position.toInt
  if i < 0 then size - i.natAbs else min i.natAbs size

namespace Slice

/-- The places that a slice selects in an array of the given size, in order. -/
def places (slice : Slice) (size : Nat) : List Nat :=
  let first := slice.start.elim 0 (placeOfBound · size)
  let last := slice.stop.elim size (placeOfBound · size)
  let step := slice.step.toInt.toNat
  List.range' first ((last - first + step - 1) / step) step

end Slice

example : placeOfIndex? (-1) 3 = some 2 := by decide
example : placeOfIndex? 3 3 = none := by decide
example : (Slice.mk (some 1) none 2 (by decide)).places 6 = [1, 3, 5] := by decide
example : (Slice.mk (some (-2)) (some 9) 1 (by decide)).places 5 = [3, 4] := by decide

end JsonSelect
