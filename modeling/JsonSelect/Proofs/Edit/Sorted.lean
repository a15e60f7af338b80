/-
The schedule as a sorted list.  To put edits in their places one by one comes to
the same as to sort them all, later locations first and edits at one location in
the order in which they were made, and to keep the first of each run.
-/
import Mathlib
import JsonSelect.Proofs.Edit.Schedule

namespace JsonSelect
namespace Edit

/-- The order in which edits are sorted; the sort keeps the order of edits at
one location. -/
def laterFirst (edit other : Edit) : Bool :=
  (compare other.location edit.location).isLE

def sameLocation (edit other : Edit) : Bool :=
  edit.location = other.location

/-! Falling lists -/

theorem Falling.mem_iff {edits : List Edit} (hfalling : Falling edits) {edit : Edit} :
    edit ∈ edits ↔ firstAnswer edits edit.location = some edit.answer := by
  induction edits with
  | nil => simp [firstAnswer_nil]
  | cons head rest ih =>
      rw [Falling, List.pairwise_cons] at hfalling
      rw [List.mem_cons, ih hfalling.2, firstAnswer_cons]
      by_cases hlocation : head.location = edit.location
      · have hlast : firstAnswer rest edit.location = none := by
          rw [firstAnswer_eq_none_iff]
          intro other hother heq
          have hlt := hfalling.1 other hother
          rw [heq, hlocation] at hlt
          exact Std.OrientedCmp.not_lt_of_lt hlt hlt
        obtain ⟨location, answer⟩ := edit
        obtain ⟨_, headAnswer⟩ := head
        obtain rfl : _ = location := hlocation
        simp [hlast, eq_comm]
      · have hne : edit ≠ head := fun heq => hlocation (heq ▸ rfl)
        simp [hne, hlocation]

theorem Falling.nodup_locations {edits : List Edit} (hfalling : Falling edits) :
    (edits.map Edit.location).Nodup := by
  rw [List.Nodup, List.pairwise_map]
  apply hfalling.imp
  intro edit other hlt heq
  rw [heq] at hlt
  exact Std.OrientedCmp.not_lt_of_lt hlt hlt

/-- Falling edits are known by their answers. -/
theorem Falling.eq_of_firstAnswer_eq {edits edits' : List Edit} (hfalling : Falling edits)
    (hfalling' : Falling edits') (hsame : firstAnswer edits = firstAnswer edits') :
    edits = edits' := by
  have hmem : ∀ edit, edit ∈ edits ↔ edit ∈ edits' := by
    intro edit
    rw [hfalling.mem_iff, hfalling'.mem_iff, hsame]
  have hperm := (List.perm_ext_iff_of_nodup hfalling.nodup_locations.of_map
    hfalling'.nodup_locations.of_map).2 hmem
  apply hperm.eq_of_pairwise _ hfalling hfalling'
  intro edit other _ _ hlt hgt
  exact absurd hgt (Std.OrientedCmp.not_lt_of_lt hlt)

/-! The first edit of each run at one location -/

theorem loop_eraseRepsBy {α : Type} (same : α → α → Bool) (a : α) (as kept : List α) :
    List.eraseRepsBy.loop same a as kept =
      kept.reverse ++ a :: (as.dropWhile (same a)).eraseRepsBy same := by
  induction as generalizing a kept with
  | nil => simp [List.eraseRepsBy.loop, List.eraseRepsBy]
  | cons b as ih =>
      rw [List.eraseRepsBy.loop]
      cases hsame : same a b with
      | true => simp [hsame, ih]
      | false => simp [hsame, ih, List.eraseRepsBy]

/-- What holds of a list if it holds of what follows its first run holds of every list. -/
@[elab_as_elim]
theorem runInduction {motive : List Edit → Prop} (nil : motive [])
    (cons : ∀ edit edits, motive (edits.dropWhile (sameLocation edit)) →
      motive (edit :: edits)) (edits : List Edit) : motive edits := by
  induction hlength : edits.length using Nat.strong_induction_on generalizing edits with
  | h length ih =>
      cases edits with
      | nil => exact nil
      | cons edit edits =>
          have hle := (List.dropWhile_sublist (sameLocation edit) (l := edits)).length_le
          exact cons edit edits (ih _ (hlength ▸ Nat.lt_succ_of_le hle) _ rfl)

/-- The first edit of each run. -/
def leaders (edits : List Edit) : List Edit :=
  edits.eraseRepsBy sameLocation

theorem leaders_cons (edit : Edit) (edits : List Edit) :
    leaders (edit :: edits) = edit :: leaders (edits.dropWhile (sameLocation edit)) :=
  loop_eraseRepsBy sameLocation edit edits []

theorem leaders_subset (edits : List Edit) : leaders edits ⊆ edits := by
  induction edits using runInduction with
  | nil => exact List.Subset.refl []
  | cons edit edits ih =>
      rw [leaders_cons]
      exact List.cons_subset_cons edit
        (List.Subset.trans ih (List.dropWhile_sublist _).subset)

theorem firstAnswer_dropWhile {edit : Edit} {location : Location}
    (hne : edit.location ≠ location) (edits : List Edit) :
    firstAnswer (edits.dropWhile (sameLocation edit)) location =
      firstAnswer edits location := by
  induction edits with
  | nil => rfl
  | cons head rest ih =>
      by_cases hsame : edit.location = head.location
      · have hhead : head.location ≠ location := hsame ▸ hne
        rw [List.dropWhile_cons_of_pos (by simpa [sameLocation] using hsame), ih,
          firstAnswer_cons, if_neg hhead]
      · rw [List.dropWhile_cons_of_neg (by simpa [sameLocation] using hsame)]

theorem firstAnswer_leaders (edits : List Edit) :
    firstAnswer (leaders edits) = firstAnswer edits := by
  induction edits using runInduction with
  | nil => rfl
  | cons edit edits ih =>
      funext location
      rw [leaders_cons, firstAnswer_cons, firstAnswer_cons, ih]
      by_cases hlocation : edit.location = location
      · rw [if_pos hlocation, if_pos hlocation]
      · rw [if_neg hlocation, if_neg hlocation, firstAnswer_dropWhile hlocation]

/-- Behind the first run of sorted edits all locations are earlier. -/
theorem lt_of_mem_dropWhile {edit other : Edit} {edits : List Edit}
    (hsorted : (edit :: edits).Pairwise fun edit other => laterFirst edit other = true)
    (hother : other ∈ edits.dropWhile (sameLocation edit)) :
    compare other.location edit.location = .lt := by
  induction edits with
  | nil => cases hother
  | cons head rest ih =>
      obtain ⟨hfirst, hrest⟩ := List.pairwise_cons.1 hsorted
      obtain ⟨hhead, hbehind⟩ := List.pairwise_cons.1 hrest
      by_cases hsame : edit.location = head.location
      · rw [List.dropWhile_cons_of_pos (by simpa [sameLocation] using hsame)] at hother
        refine ih (List.pairwise_cons.2 ⟨fun later hlater => ?_, hbehind⟩) hother
        exact hfirst later (List.mem_cons_of_mem head hlater)
      · have hlt : compare head.location edit.location = .lt := by
          rcases Ordering.isLE_iff_eq_lt_or_eq_eq.1 (hfirst head List.mem_cons_self) with
            hlt | heq
          · exact hlt
          · exact absurd (Std.LawfulEqCmp.eq_of_compare heq).symm hsame
        rw [List.dropWhile_cons_of_neg (by simpa [sameLocation] using hsame)] at hother
        rcases List.mem_cons.1 hother with rfl | hother
        · exact hlt
        · exact Std.TransCmp.lt_of_isLE_of_lt (hhead other hother) hlt

theorem falling_leaders {edits : List Edit}
    (hsorted : edits.Pairwise fun edit other => laterFirst edit other = true) :
    Falling (leaders edits) := by
  induction edits using runInduction with
  | nil => exact List.Pairwise.nil
  | cons edit edits ih =>
      rw [leaders_cons]
      apply List.Pairwise.cons
      · exact fun other hother => lt_of_mem_dropWhile hsorted (leaders_subset _ hother)
      · exact ih ((List.pairwise_cons.1 hsorted).2.sublist (List.dropWhile_sublist _))

/-! Sorting -/

theorem laterFirst_trans (a b c : Edit) (hab : laterFirst a b = true)
    (hbc : laterFirst b c = true) : laterFirst a c = true :=
  Std.TransCmp.isLE_trans hbc hab

theorem laterFirst_total (a b : Edit) : (laterFirst a b || laterFirst b a) = true := by
  have hswap : compare a.location b.location = (compare b.location a.location).swap :=
    Std.OrientedCmp.eq_swap
  rw [laterFirst, laterFirst, hswap]
  cases compare b.location a.location <;> rfl

/-- Sorting keeps the order of the edits at one location. -/
theorem filter_mergeSort (edits : List Edit) (location : Location) :
    (edits.mergeSort laterFirst).filter (·.location = location) =
      edits.filter (·.location = location) := by
  have hperm := (List.mergeSort_perm edits laterFirst).filter (·.location = location)
  have hequal : (edits.filter (·.location = location)).Pairwise
      fun edit other => laterFirst edit other = true := by
    apply List.pairwise_of_forall_mem_list
    intro edit hedit other hother
    have hedit' : edit.location = location := by simpa using (List.mem_filter.1 hedit).2
    have hother' : other.location = location := by
      simpa using (List.mem_filter.1 hother).2
    have hself : compare location location = .eq := Std.ReflCmp.compare_self
    rw [laterFirst, hedit', hother', hself]
    rfl
  have hsublist := (List.sublist_mergeSort laterFirst_trans laterFirst_total hequal
    List.filter_sublist).filter (·.location = location)
  rw [List.filter_filter] at hsublist
  simp only [Bool.and_self] at hsublist
  exact (hsublist.eq_of_length hperm.length_eq.symm).symm

theorem firstAnswer_mergeSort (edits : List Edit) :
    firstAnswer (edits.mergeSort laterFirst) = firstAnswer edits := by
  funext location
  rw [firstAnswer, firstAnswer, ← List.head?_filter, ← List.head?_filter,
    filter_mergeSort]

/-- The schedule is the sorted list of the edits without the repeated locations. -/
theorem schedule_eq_leaders_mergeSort (edits : List Edit) :
    schedule edits = leaders (edits.mergeSort laterFirst) := by
  have hsorted := List.pairwise_mergeSort laterFirst_trans laterFirst_total edits
  apply (falling_schedule edits).eq_of_firstAnswer_eq (falling_leaders hsorted)
  rw [firstAnswer_schedule, firstAnswer_leaders, firstAnswer_mergeSort]

end Edit
end JsonSelect
