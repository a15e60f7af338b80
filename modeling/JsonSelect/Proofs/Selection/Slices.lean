/-
Slices of arrays.  A slice selects the places between its bounds that are whole
steps away from the first, and counting them out in words of 64 bits gives the
same places: no bound, no step and no sum is too large for a word.
-/
import Mathlib
import JsonSelect.Proofs.Selection.Composition

namespace JsonSelect

/-! Words -/

theorem toNat_toUInt64_of_nonneg {position : Int64} (hsign : 0 ≤ position.toInt) :
    position.toUInt64.toNat = position.toInt.natAbs := by
  have hclamp : position.toUInt64.toNat = position.toInt.toNat :=
    Int64.toNat_toUInt64_of_le (Int64.le_iff_toInt_le.2 hsign)
  omega

/-- The least position is its own negative, but as a word without a sign it is its
distance from zero. -/
theorem toNat_toUInt64_neg {position : Int64} (hsign : position.toInt < 0) :
    (-position).toUInt64.toNat = position.toInt.natAbs := by
  have hword := BitVec.toInt_eq_toNat_cond position.toBitVec
  rw [Int64.toInt_toBitVec, Int64.toNat_toBitVec] at hword
  have hlt := position.toUInt64.toNat_lt
  rw [Int64.toUInt64_neg, UInt64.toNat_neg, UInt64.size]
  split at hword <;> omega

/-- The place of a bound in an array whose size is a word. -/
def wordOfBound (position : Int64) (size : UInt64) : UInt64 :=
  if position < 0 then
    let back := (-position).toUInt64
    if back ≤ size then size - back else 0
  else if position.toUInt64 ≤ size then position.toUInt64 else size

theorem toNat_wordOfBound (position : Int64) (size : UInt64) :
    (wordOfBound position size).toNat = placeOfBound position size.toNat := by
  have hneg : position < 0 ↔ position.toInt < 0 := Int64.lt_iff_toInt_lt
  unfold wordOfBound placeOfBound
  simp only [hneg]
  by_cases hsign : position.toInt < 0
  · have hback := toNat_toUInt64_neg hsign
    rw [if_pos hsign, if_pos hsign]
    split
    · next hle => rw [UInt64.toNat_sub_of_le _ _ hle, hback]
    · next hle =>
        rw [UInt64.le_iff_toNat_le, hback] at hle
        rw [UInt64.toNat_zero]
        omega
  · have hforth := toNat_toUInt64_of_nonneg (Int.not_lt.1 hsign)
    rw [if_neg hsign, if_neg hsign]
    split
    · next hle =>
        rw [UInt64.le_iff_toNat_le] at hle
        omega
    · next hle =>
        rw [UInt64.le_iff_toNat_le] at hle
        omega

/-- Words that are counted out are what the numbers are, as long as these fit. -/
theorem map_toNat_iterate {first step : UInt64} {count : Nat}
    (hfits : ∀ k < count, first.toNat + step.toNat * k < UInt64.size) :
    (List.iterate (· + step) first count).map UInt64.toNat =
      List.range' first.toNat count step.toNat := by
  induction count generalizing first with
  | zero => rfl
  | succ count ih =>
      rw [List.iterate, List.map_cons, List.range'_succ]
      congr 1
      cases count with
      | zero => rfl
      | succ count =>
          have hnext : (first + step).toNat = first.toNat + step.toNat := by
            rw [UInt64.toNat_add]
            exact Nat.mod_eq_of_lt (by simpa using hfits 1 (by omega))
          rw [ih, hnext]
          intro k hk
          have hk := hfits (k + 1) (by omega)
          rw [Nat.mul_add_one] at hk
          omega

namespace Slice

/-- The places that a slice selects, in words.  Sums that are too large
would go around. -/
def wordPlaces (slice : Slice) (size : UInt64) : List UInt64 :=
  let first := slice.start.elim 0 (wordOfBound · size)
  let last := slice.stop.elim size (wordOfBound · size)
  let step := slice.step.toUInt64
  let distance := if first ≤ last then last - first else 0
  let count := distance / step + if distance % step = 0 then 0 else 1
  List.iterate (· + step) first count.toNat

theorem toNat_step (slice : Slice) :
    slice.step.toUInt64.toNat = slice.step.toInt.toNat := by
  have hpos := slice.step_toInt_pos
  rw [toNat_toUInt64_of_nonneg (Int.le_of_lt hpos)]
  omega

theorem toNat_distance (first last : UInt64) :
    (if first ≤ last then last - first else 0).toNat = last.toNat - first.toNat := by
  split
  · next hle => exact UInt64.toNat_sub_of_le _ _ hle
  · next hle =>
      rw [UInt64.le_iff_toNat_le] at hle
      rw [UInt64.toNat_zero]
      omega

/-- The number of steps is rounded up after the division, so that nothing is added to
the distance that may be too large already. -/
theorem toNat_ceilDiv (distance step : UInt64) (hstep : 0 < step.toNat) :
    (distance / step + if distance % step = 0 then 0 else 1).toNat =
      (distance.toNat + step.toNat - 1) / step.toNat := by
  have hdivMod := Nat.div_add_mod distance.toNat step.toNat
  have hmod := Nat.mod_lt distance.toNat hstep
  have hfits := distance.toNat_lt
  have hquotient := Nat.le_mul_of_pos_left (distance.toNat / step.toNat) hstep
  have hzero : distance % step = 0 ↔ distance.toNat % step.toNat = 0 := by
    rw [← UInt64.toNat_inj, UInt64.toNat_mod, UInt64.toNat_zero]
  symm
  split
  · next hdivides =>
      rw [hzero] at hdivides
      rw [UInt64.add_zero, UInt64.toNat_div]
      apply Nat.div_eq_of_lt_le
      · rw [Nat.mul_comm]
        omega
      · rw [Nat.add_mul, Nat.mul_comm]
        omega
  · next hdivides =>
      rw [hzero] at hdivides
      rw [UInt64.toNat_add, UInt64.toNat_div, UInt64.toNat_one,
        Nat.mod_eq_of_lt (by omega)]
      apply Nat.div_eq_of_lt_le
      · rw [Nat.add_mul, Nat.mul_comm]
        omega
      · rw [Nat.add_mul, Nat.add_mul, Nat.mul_comm]
        omega

/-- Counting in words gives the places. -/
theorem map_toNat_wordPlaces (slice : Slice) (size : UInt64) :
    (slice.wordPlaces size).map UInt64.toNat = slice.places size.toNat := by
  have hbound (bound : Option Int64) (missing : UInt64) :
      (bound.elim missing (wordOfBound · size)).toNat =
        bound.elim missing.toNat (placeOfBound · size.toNat) := by
    cases bound with
    | none => rfl
    | some position => exact toNat_wordOfBound position size
  have hfirst := hbound slice.start 0
  have hlast := hbound slice.stop size
  rw [UInt64.toNat_zero] at hfirst
  have hstep : 0 < slice.step.toUInt64.toNat := by
    have hpos := slice.step_toInt_pos
    rw [toNat_step]
    omega
  simp only [wordPlaces, places]
  rw [← hfirst, ← hlast, ← toNat_step, ← toNat_distance, ← toNat_ceilDiv _ _ hstep]
  apply map_toNat_iterate
  intro count hcount
  rw [toNat_ceilDiv _ _ hstep, toNat_distance, lt_ceilDiv_iff hstep] at hcount
  have hlt := (slice.stop.elim size (wordOfBound · size)).toNat_lt_size
  omega

end Slice

/-- What stands at some places of an array, each of which is there. -/
theorem Json.forall₂_childAt {elements : List Json} {places : List Nat}
    (hplaces : ∀ place ∈ places, place < elements.length) :
    List.Forall₂ (fun place child => child.1 = .index place ∧
      elements[place]? = some child.2)
      places (places.flatMap fun place => (array elements).childAt (.index place)) := by
  induction places with
  | nil => exact .nil
  | cons place places ih =>
      rw [List.forall_mem_cons] at hplaces
      have hget := List.getElem?_eq_getElem hplaces.1
      rw [List.flatMap_cons, childAt, child?, hget]
      exact .cons ⟨rfl, hget⟩ (ih hplaces.2)

/-- A slice can have any bounds and any step forward.  It selects the places that are
between its bounds, moved into the array, and whole steps away from the first: each once,
in their order, and all of them inside.  Counted out in words they are the same. -/
theorem Slice.selects_covered (start stop : Option Int64) (step : Int64)
    (hstep : 0 < step) :
    ∃ slice : Slice, of? start stop step = some slice ∧
      (∀ size place : Nat, place ∈ slice.places size ↔
        start.elim 0 (clampedPlace · size) ≤ place ∧
        place < stop.elim (size : Int) (clampedPlace · size) ∧
        step.toInt ∣ place - start.elim 0 (clampedPlace · size)) ∧
      (∀ size : Nat, (slice.places size).Pairwise (· < ·) ∧
        ∀ place ∈ slice.places size, place < size) ∧
      (∀ size : UInt64,
        (slice.wordPlaces size).map UInt64.toNat = slice.places size.toNat) ∧
      ∀ (root : Json) (elements : List Json),
        List.Forall₂
          (fun place found =>
            found.location = [.index place] ∧ elements[place]? = some found.value)
          (slice.places elements.length)
          (Step.matchesFrom root [.slice slice] (.array elements)) := by
  refine ⟨⟨start, stop, step, hstep⟩, dif_pos hstep, ?_, ?_, ?_, ?_⟩
  · intro size place
    rw [mem_places_iff, covers_iff]
  · exact fun size => ⟨pairwise_places _ size, fun _ => lt_of_mem_places⟩
  · exact map_toNat_wordPlaces _
  · intro root elements
    rw [Step.matchesFrom_eq_located, located_sole root (by nofun), Step.selected,
      ← Json.childrenOfSlice_eq_filter, List.forall₂_map_right_iff]
    apply (Json.forall₂_childAt fun _ => lt_of_mem_places).imp
    rintro place child ⟨helement, hget⟩
    exact ⟨congrArg ([·]) helement, hget⟩

/-- From the least position to before the greatest, in the longest steps: only the first
element is selected, and nothing is from the greatest position to before the least. -/
theorem Slice.selects_covered_extremes :
    0 < Int64.maxValue ∧
    (∃ slice, of? (some .minValue) (some .maxValue) .maxValue = some slice ∧
      (∀ place, place ∈ slice.places 3 ↔ place = 0) ∧
      (slice.wordPlaces 3).map UInt64.toNat = slice.places 3) ∧
    ∃ slice, of? (some .maxValue) (some .minValue) .maxValue = some slice ∧
      ∀ root,
        Step.matchesFrom root [.slice slice] (.array [.null, .null, .null]) = [] := by
  have hstep : 0 < Int64.maxValue := by decide
  obtain ⟨forward, hforward, hcovered, -, hwords, -⟩ :=
    selects_covered (some .minValue) (some .maxValue) .maxValue hstep
  obtain ⟨backward, hbackward, hnowhere, -, -, hmatches⟩ :=
    selects_covered (some .maxValue) (some .minValue) .maxValue hstep
  refine ⟨hstep, ⟨forward, hforward, ?_, hwords 3⟩, backward, hbackward, ?_⟩
  · intro place
    rw [hcovered]
    have hfirst : (some Int64.minValue).elim 0 (clampedPlace · 3) = 0 := by decide
    have hlast :
        (some Int64.maxValue).elim ((3 : Nat) : Int) (clampedPlace · 3) = 3 := by decide
    rw [hfirst, hlast, Int64.toInt_maxValue]
    omega
  · intro root
    have hnone : backward.places 3 = [] := by
      rw [List.eq_nil_iff_forall_not_mem]
      intro place hplace
      obtain ⟨hfirst, hlast, -⟩ := (hnowhere 3 place).1 hplace
      exact absurd (hfirst.trans_lt hlast) (by decide)
    have hmatches := hmatches root [.null, .null, .null]
    rw [List.length_cons, List.length_cons, List.length_singleton, hnone] at hmatches
    exact List.forall₂_nil_left_iff.1 hmatches

end JsonSelect
