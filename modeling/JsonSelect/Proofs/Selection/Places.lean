/-
Where matches are.  In a well formed document every match is the value to which
its location leads, whatever the steps that found it.
-/
import Mathlib
import JsonSelect.Proofs.Selection.Queries

namespace JsonSelect

theorem Item.mem_children_of_mem_selected {value : Json} {item : Item}
    {child : Element × Json} (hchild : child ∈ item.selected value) :
    child ∈ value.children := by
  rw [selected, Option.mem_toList] at hchild
  exact List.mem_of_find?_eq_some hchild

/-- A step selects among the children. -/
theorem Step.mem_children_of_mem_selected {root value : Json} {step : Step}
    {child : Element × Json} (hchild : child ∈ step.selected root value) :
    child ∈ value.children := by
  cases step with
  | key name => exact Item.mem_children_of_mem_selected hchild
  | index position => exact Item.mem_children_of_mem_selected hchild
  | wildcard => exact hchild
  | descent => cases hchild
  | slice range => exact (List.mem_filter.1 hchild).1
  | union items =>
      obtain ⟨item, -, hitem⟩ := List.mem_flatMap.1 hchild
      exact Item.mem_children_of_mem_selected hitem
  | filter predicate => exact (List.mem_filter.1 hchild).1

variable {root : Json}

theorem resolve?_under {value : Json} (hwf : value.WellFormed) {child : Element × Json}
    (hchild : child ∈ value.children) {found : Match}
    (hfound : child.2.resolve? found.location = some found.value) :
    value.resolve? (found.under child.1).location = some (found.under child.1).value := by
  rw [Match.under, Json.resolve?, (Json.child?_eq_some_iff hwf child.1 child.2).2 hchild]
  exact hfound

/-- The location of a match leads to its value. -/
theorem resolve?_of_mem_located {steps : List Step} {value : Json}
    (hwf : value.WellFormed) {found : Match} (hfound : found ∈ located root steps value) :
    value.resolve? found.location = some found.value := by
  induction steps generalizing value found with
  | nil =>
      rw [located_nil, List.mem_singleton] at hfound
      rw [hfound]
      rfl
  | cons step rest ih =>
      by_cases hstep : step = .descent
      · subst hstep
        induction value using Json.childInduction generalizing found with
        | step value ihChildren =>
            rw [located_descent, List.mem_append, List.mem_flatMap] at hfound
            rcases hfound with hhere | ⟨child, hchild, hbelow⟩
            · exact ih hwf hhere
            · obtain ⟨deeper, hdeeper, rfl⟩ := List.mem_map.1 hbelow
              exact resolve?_under hwf hchild
                (ihChildren child hchild (hwf.of_mem_children hchild) hdeeper)
      · rw [located_cons root hstep, List.mem_flatMap] at hfound
        obtain ⟨child, hselected, hbelow⟩ := hfound
        obtain ⟨deeper, hdeeper, rfl⟩ := List.mem_map.1 hbelow
        have hchild := Step.mem_children_of_mem_selected hselected
        exact resolve?_under hwf hchild (ih (hwf.of_mem_children hchild) hdeeper)

end JsonSelect
