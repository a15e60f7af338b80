/-
The children that the moves of a path take are those that its steps select by
definition: a search by key or place finds the child of that element, and the
places that a slice counts out are those that it covers.
-/
import Mathlib
import JsonSelect.Proofs.Selection.Reference

namespace JsonSelect

/-! Places -/

theorem placeOfIndex?_eq_some_iff {position : Int64} {size place : Nat} :
    placeOfIndex? position size = some place ↔
      place < size ∧ (place : Int) = namedPlace position size := by
  unfold placeOfIndex? namedPlace
  simp only
  split
  · split
    · rw [Option.some.injEq]
      omega
    · constructor
      · intro hnone
        cases hnone
      · omega
  · split
    · rw [Option.some.injEq]
      omega
    · constructor
      · intro hnone
        cases hnone
      · omega

theorem placeOfBound_eq_clampedPlace (position : Int64) (size : Nat) :
    (placeOfBound position size : Int) = clampedPlace position size := by
  unfold placeOfBound clampedPlace namedPlace
  simp only
  split <;> omega

theorem placeOfBound_le (position : Int64) (size : Nat) :
    placeOfBound position size ≤ size := by
  unfold placeOfBound
  simp only
  split <;> omega

namespace Slice

/-- The number of steps that stay before a bound, rounded up. -/
theorem lt_ceilDiv_iff {step : Nat} (hstep : 0 < step) (count distance : Nat) :
    count < (distance + step - 1) / step ↔ step * count < distance := by
  rw [Nat.lt_iff_add_one_le, Nat.le_div_iff_mul_le hstep, Nat.add_mul, Nat.mul_comm]
  omega

theorem step_toInt_pos (slice : Slice) : 0 < slice.step.toInt := by
  have hpos := slice.step_pos
  rw [Int64.lt_iff_toInt_lt] at hpos
  exact hpos

theorem mem_range'_ceilDiv_iff {first last step place : Nat} (hstep : 0 < step) :
    place ∈ List.range' first ((last - first + step - 1) / step) step ↔
      first ≤ place ∧ place < last ∧ step ∣ place - first := by
  rw [List.mem_range']
  constructor
  · rintro ⟨count, hcount, rfl⟩
    rw [lt_ceilDiv_iff hstep] at hcount
    exact ⟨by omega, by omega, count, by omega⟩
  · rintro ⟨hfirst, hlast, count, hcount⟩
    exact ⟨count, (lt_ceilDiv_iff hstep count _).2 (by omega), by omega⟩

theorem covers_iff {slice : Slice} {size place : Nat} :
    slice.covers size place = true ↔
      slice.start.elim 0 (clampedPlace · size) ≤ place ∧
      place < slice.stop.elim (size : Int) (clampedPlace · size) ∧
      slice.step.toInt ∣ place - slice.start.elim 0 (clampedPlace · size) :=
  decide_eq_true_iff

theorem mem_places_iff {slice : Slice} {size place : Nat} :
    place ∈ slice.places size ↔ slice.covers size place = true := by
  have hpos := slice.step_toInt_pos
  have hstep : (slice.step.toInt.toNat : Int) = slice.step.toInt :=
    Int.toNat_of_nonneg hpos.le
  have hbound (bound : Option Int64) (missing : Nat) :
      ((bound.elim missing (placeOfBound · size) : Nat) : Int) =
        bound.elim (missing : Int) (clampedPlace · size) := by
    cases bound with
    | none => rfl
    | some position => exact placeOfBound_eq_clampedPlace position size
  have hfirst := hbound slice.start 0
  have hlast := hbound slice.stop size
  rw [Nat.cast_zero] at hfirst
  simp only [places]
  rw [mem_range'_ceilDiv_iff (by omega), covers_iff, ← hfirst, ← hlast, Nat.cast_le,
    Nat.cast_lt]
  refine and_congr_right fun hle => and_congr_right fun _ => ?_
  conv_rhs => rw [← hstep, ← Nat.cast_sub hle]
  exact Int.natCast_dvd_natCast.symm

/-- What is covered is inside. -/
theorem lt_of_mem_places {slice : Slice} {size place : Nat}
    (hplace : place ∈ slice.places size) :
    place < size := by
  have hle : slice.stop.elim size (placeOfBound · size) ≤ size := by
    cases slice.stop with
    | none => exact Nat.le_refl size
    | some position => exact placeOfBound_le position size
  have hpos := slice.step_toInt_pos
  simp only [places] at hplace
  rw [mem_range'_ceilDiv_iff (by omega)] at hplace
  omega

theorem pairwise_places (slice : Slice) (size : Nat) :
    (slice.places size).Pairwise (· < ·) := by
  have hpos := slice.step_toInt_pos
  exact List.pairwise_lt_range' _ (by omega)

/-- The places of a slice are those that it covers, from the first to the last. -/
theorem places_eq_filter (slice : Slice) (size : Nat) :
    slice.places size = (List.range size).filter (slice.covers size) := by
  apply List.SortedLT.eq_of_mem_iff
  · exact (pairwise_places slice size).sortedLT
  · exact (List.pairwise_lt_range.filter _).sortedLT
  · intro place
    rw [List.mem_filter, List.mem_range, ← mem_places_iff]
    exact (and_iff_right_of_imp lt_of_mem_places).symm

end Slice

/-! Children -/

namespace Json

theorem find?_zipIdx_map (elements : List Json) (start place : Nat) :
    ((elements.zipIdx start).map fun (value, place) => (Element.index place, value)).find?
        (fun child => child.1 = .index (start + place)) =
      elements[place]?.map (Element.index (start + place), ·) := by
  induction elements generalizing start place with
  | nil => rfl
  | cons element elements ih =>
      cases place with
      | zero => simp
      | succ place =>
          have hne : start ≠ start + (place + 1) := by omega
          have ih := ih (start + 1) place
          rw [Nat.add_right_comm, Nat.add_assoc] at ih
          simpa [hne] using ih

/-- A search for a child by its element is a search among the children. -/
theorem childAt_eq_find? (value : Json) (element : Element) :
    value.childAt element =
      (value.children.find? fun child => child.1 = element).toList := by
  cases value with
  | array elements =>
      cases element with
      | key name => simp [childAt, child?, children]
      | index place =>
          have hfind := find?_zipIdx_map elements 0 place
          rw [Nat.zero_add] at hfind
          rw [childAt, child?, children, hfind]
  | object members =>
      cases element with
      | key name =>
          have hfind : ((members.map fun member => (Element.key member.1, member.2)).find?
              fun child => child.1 = .key name) =
                (members.find? fun member => member.1 = name).map
                  fun member => (.key member.1, member.2) := by
            simp [List.find?_map]
          rw [childAt, child?, children, Members.get?, hfind]
          cases hmember : members.find? fun member => member.1 = name with
          | none => rfl
          | some member =>
              have hname : member.1 = name := by simpa using List.find?_some hmember
              rw [← hname]
              rfl
      | index place => simp [childAt, child?, children]
  | null => cases element <;> rfl
  | bool _ => cases element <;> rfl
  | number _ => cases element <;> rfl
  | string _ => cases element <;> rfl

theorem length_children_array (elements : List Json) :
    (array elements).children.length = elements.length := by
  simp [children]

/-- The children of an array are what stands at its places, in order. -/
theorem children_array (elements : List Json) :
    (array elements).children =
      (List.range elements.length).flatMap fun place =>
        (array elements).childAt (.index place) := by
  induction elements using List.reverseRecOn with
  | nil => rfl
  | append_singleton elements element ih =>
      have hfront : ∀ place ∈ List.range elements.length,
          (array (elements ++ [element])).childAt (.index place) =
            (array elements).childAt (.index place) := by
        intro place hplace
        rw [List.mem_range] at hplace
        simp [childAt, child?, List.getElem?_append_left hplace]
      rw [List.length_append, List.length_singleton, List.range_succ, List.flatMap_append,
        List.flatMap_congr hfront, ← ih]
      simp [children, childAt, child?, List.zipIdx_append]

/-- A choice among the elements of an array by their places. -/
theorem filter_children_array (elements : List Json) (chosen : Element → Bool) :
    (array elements).children.filter (fun child => chosen child.1) =
      ((List.range elements.length).filter fun place => chosen (.index place)).flatMap
        fun place => (array elements).childAt (.index place) := by
  rw [children_array, List.filter_flatMap]
  induction List.range elements.length with
  | nil => rfl
  | cons place places ih =>
      rw [List.flatMap_cons, ih, childAt]
      cases hchild : (array elements).child? (.index place) with
      | none =>
          by_cases hchosen : chosen (.index place) <;> simp [hchosen, childAt, hchild]
      | some child =>
          by_cases hchosen : chosen (.index place) <;> simp [hchosen, childAt, hchild]

theorem key_of_mem_children_object {members : Members} {child : Element × Json}
    (hchild : child ∈ (object members).children) : ∃ name, child.1 = .key name := by
  simp only [children, List.mem_map] at hchild
  obtain ⟨member, -, rfl⟩ := hchild
  exact ⟨member.1, rfl⟩

theorem childAtPosition_eq_selected (value : Json) (position : Int64) :
    value.childAtPosition position = (Item.index position).selected value := by
  cases value with
  | array elements =>
      rw [childAtPosition, Item.selected, length_children_array]
      cases hplace : placeOfIndex? position elements.length with
      | some place =>
          obtain ⟨-, hnamed⟩ := placeOfIndex?_eq_some_iff.1 hplace
          change (array elements).childAt (.index place) = _
          rw [childAt_eq_find?]
          congr 2
          funext child
          cases hchild : child.1 with
          | key name => simp [Item.names]
          | index place' => simp [Item.names, ← hnamed]
      | none =>
          change [] = _
          symm
          rw [Option.toList_eq_nil_iff, List.find?_eq_none]
          intro child hchild hnames
          simp only [children, List.mem_map] at hchild
          obtain ⟨⟨element, place⟩, hmem, rfl⟩ := hchild
          have hlt : place < elements.length := by
            simpa using List.snd_lt_of_mem_zipIdx hmem
          have hsome :=
            placeOfIndex?_eq_some_iff.2 ⟨hlt, by simpa [Item.names] using hnames⟩
          rw [hplace] at hsome
          cases hsome
  | object members =>
      symm
      rw [childAtPosition, Item.selected, Option.toList_eq_nil_iff, List.find?_eq_none]
      · intro child hchild
        obtain ⟨name, hname⟩ := key_of_mem_children_object hchild
        simp [hname, Item.names]
      · intro elements heq
        cases heq
  | null => rfl
  | bool _ => rfl
  | number _ => rfl
  | string _ => rfl

theorem childOfItem_eq_selected (value : Json) (item : Item) :
    value.childOfItem item = item.selected value := by
  cases item with
  | key name =>
      rw [childOfItem, childAt_eq_find?, Item.selected]
      congr 2
      funext child
      cases child.1 <;> simp [Item.names]
  | index position => exact childAtPosition_eq_selected value position

theorem childrenOfSlice_eq_filter (value : Json) (slice : Slice) :
    value.childrenOfSlice slice =
      value.children.filter fun child =>
        slice.coversElement value.children.length child.1 := by
  cases value with
  | array elements =>
      rw [filter_children_array, length_children_array, childrenOfSlice,
        Slice.places_eq_filter]
      rfl
  | object members =>
      symm
      rw [childrenOfSlice, List.filter_eq_nil_iff]
      · intro child hchild
        obtain ⟨name, hname⟩ := key_of_mem_children_object hchild
        simp [hname, Slice.coversElement]
      · intro elements heq
        cases heq
  | null => rfl
  | bool _ => rfl
  | number _ => rfl
  | string _ => rfl

end Json

/-- The move of a step takes the children that the step selects. -/
theorem Step.move_eq_select (root : Json) {step : Step} (hstep : step ≠ .descent) :
    step.move root = .select (step.selected root) := by
  cases step with
  | descent => exact absurd rfl hstep
  | key name =>
      rw [Step.move]
      congr 1
      funext value
      exact Json.childOfItem_eq_selected value (.key name)
  | index position =>
      rw [Step.move]
      congr 1
      funext value
      exact Json.childAtPosition_eq_selected value position
  | wildcard => rfl
  | slice slice =>
      rw [Step.move]
      congr 1
      funext value
      exact Json.childrenOfSlice_eq_filter value slice
  | union items =>
      rw [Step.move]
      congr 1
      funext value
      rw [funext (Json.childOfItem_eq_selected value)]
      rfl
  | filter predicate => rfl

end JsonSelect
