/-
The order in which edits are written.  A schedule falls strictly, so that each
location stands in it once, and it keeps the first answer for each.
-/
import Mathlib
import JsonSelect.Proofs.Edit.Rebuild
import JsonSelect.Proofs.Location.Order

namespace JsonSelect
namespace Edit

/-- The answer of the first edit at each location. -/
def firstAnswer (edits : List Edit) : Answers :=
  fun location => (edits.find? fun edit => edit.location = location).map Edit.answer

/-- Each location is before those of the edits that stand before it. -/
def Falling (edits : List Edit) : Prop :=
  edits.Pairwise fun edit later => compare later.location edit.location = .lt

theorem firstAnswer_nil (location : Location) : firstAnswer [] location = none := rfl

theorem firstAnswer_cons (edit : Edit) (edits : List Edit) (location : Location) :
    firstAnswer (edit :: edits) location =
      if edit.location = location then some edit.answer
        else firstAnswer edits location := by
  unfold firstAnswer
  by_cases h : edit.location = location <;> simp [h]

theorem firstAnswer_eq_none_iff {edits : List Edit} {location : Location} :
    firstAnswer edits location = none ↔ ∀ edit ∈ edits, edit.location ≠ location := by
  simp [firstAnswer, List.find?_eq_none]

theorem mem_insert_imp {edit other : Edit} {edits : List Edit}
    (hmem : other ∈ insert edit edits) :
    other = edit ∨ other ∈ edits := by
  induction edits with
  | nil =>
      rw [insert, List.mem_singleton] at hmem
      exact Or.inl hmem
  | cons head rest ih =>
      rw [insert] at hmem
      cases hcmp : compare edit.location head.location with
      | gt =>
          simp only [hcmp, List.mem_cons] at hmem ⊢
          exact hmem
      | eq =>
          simp only [hcmp] at hmem
          exact Or.inr hmem
      | lt =>
          simp only [hcmp, List.mem_cons] at hmem
          rcases hmem with rfl | hmem
          · exact Or.inr List.mem_cons_self
          · exact (ih hmem).imp_right (List.mem_cons_of_mem head)

theorem falling_insert (edit : Edit) {edits : List Edit} (hfalling : Falling edits) :
    Falling (insert edit edits) := by
  induction edits with
  | nil => exact List.pairwise_singleton _ edit
  | cons head rest ih =>
      rw [Falling, List.pairwise_cons] at hfalling
      rw [insert]
      cases hcmp : compare edit.location head.location with
      | gt =>
          have hlt : compare head.location edit.location = .lt :=
            Std.OrientedCmp.gt_iff_lt.1 hcmp
          apply List.Pairwise.cons
          · intro other hother
            rcases List.mem_cons.1 hother with rfl | hother
            · exact hlt
            · exact Std.TransCmp.lt_trans (hfalling.1 other hother) hlt
          · exact List.pairwise_cons.2 hfalling
      | eq => exact List.pairwise_cons.2 hfalling
      | lt =>
          apply List.Pairwise.cons
          · intro other hother
            rcases mem_insert_imp hother with rfl | hother
            · exact hcmp
            · exact hfalling.1 other hother
          · exact ih hfalling.2

/-- An edit that is put in its place answers for its location only if no other did. -/
theorem firstAnswer_insert (edit : Edit) {edits : List Edit} (hfalling : Falling edits)
    (location : Location) :
    firstAnswer (insert edit edits) location =
      (firstAnswer edits location).or (firstAnswer [edit] location) := by
  induction edits with
  | nil => rfl
  | cons head rest ih =>
      rw [Falling, List.pairwise_cons] at hfalling
      rw [insert]
      cases hcmp : compare edit.location head.location with
      | gt =>
          have hlt : compare head.location edit.location = .lt :=
            Std.OrientedCmp.gt_iff_lt.1 hcmp
          simp only [firstAnswer_cons edit, firstAnswer_nil]
          by_cases hlocation : edit.location = location
          · have habsent : firstAnswer (head :: rest) location = none := by
              rw [firstAnswer_eq_none_iff]
              intro other hother heq
              have hbefore : compare other.location edit.location = .lt := by
                rcases List.mem_cons.1 hother with rfl | hother
                · exact hlt
                · exact Std.TransCmp.lt_trans (hfalling.1 other hother) hlt
              rw [heq, hlocation] at hbefore
              exact Std.OrientedCmp.not_lt_of_lt hbefore hbefore
            rw [habsent, Option.none_or]
          · rw [if_neg hlocation, if_neg hlocation, Option.or_none]
      | eq =>
          have heq : edit.location = head.location := Std.LawfulEqCmp.eq_of_compare hcmp
          simp only [firstAnswer_cons, firstAnswer_nil, heq]
          by_cases hlocation : head.location = location <;> simp [hlocation]
      | lt =>
          simp only [firstAnswer_cons head, ih hfalling.2]
          by_cases hlocation : head.location = location <;> simp [hlocation]

theorem schedule_spec (edits scheduled : List Edit) (hfalling : Falling scheduled) :
    let result := edits.foldl (fun scheduled edit => insert edit scheduled) scheduled
    Falling result ∧
      (∀ edit ∈ result, edit ∈ scheduled ∨ edit ∈ edits) ∧
      ∀ location, firstAnswer result location =
        (firstAnswer scheduled location).or (firstAnswer edits location) := by
  induction edits generalizing scheduled with
  | nil =>
      refine ⟨hfalling, fun edit hedit => Or.inl hedit, fun location => ?_⟩
      rw [firstAnswer_nil, Option.or_none]
      rfl
  | cons edit edits ih =>
      obtain ⟨hresult, hmem, hfirst⟩ :=
        ih (insert edit scheduled) (falling_insert edit hfalling)
      refine ⟨hresult, ?_, ?_⟩
      · intro other hother
        rcases hmem other hother with hother | hother
        · rcases mem_insert_imp hother with rfl | hother
          · exact Or.inr List.mem_cons_self
          · exact Or.inl hother
        · exact Or.inr (List.mem_cons_of_mem edit hother)
      · intro location
        refine (hfirst location).trans ?_
        rw [firstAnswer_insert edit hfalling, Option.or_assoc,
          firstAnswer_cons edit edits, firstAnswer_cons edit []]
        by_cases hlocation : edit.location = location <;> simp [hlocation,
          firstAnswer_nil]

theorem falling_schedule (edits : List Edit) : Falling (schedule edits) :=
  (schedule_spec edits [] List.Pairwise.nil).1

theorem mem_of_mem_schedule {edits : List Edit} {edit : Edit}
    (hedit : edit ∈ schedule edits) :
    edit ∈ edits := by
  rcases (schedule_spec edits [] List.Pairwise.nil).2.1 edit hedit with hnil | hmem
  · cases hnil
  · exact hmem

theorem firstAnswer_schedule (edits : List Edit) :
    firstAnswer (schedule edits) = firstAnswer edits := by
  funext location
  refine ((schedule_spec edits [] List.Pairwise.nil).2.2 location).trans ?_
  rw [firstAnswer_nil, Option.none_or]

end Edit
end JsonSelect
