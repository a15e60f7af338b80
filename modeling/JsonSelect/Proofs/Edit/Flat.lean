/-
Answers that are values with nothing in them.  Where they are written, what lay
below is gone and everything else keeps its place; so steps that do not look
into values find again what they found before, except below a written value.
-/
import Mathlib
import JsonSelect.Proofs.Edit.Calls
import JsonSelect.Proofs.Location.Reordered
import JsonSelect.Proofs.Selection.Places

namespace JsonSelect

/-! Answers that hold nothing -/

namespace Answers

/-- Every answer is a value, and nothing is in it. -/
def Flat (answers : Answers) : Prop :=
  ∀ location answer, answers location = some answer →
    ∃ value : Json, answer = some value ∧ value.children = []

/-- Whether nothing above a location is listed. -/
def spares (answers : Answers) : Location → Bool
  | [] => true
  | element :: location => (answers []).isNone && (answers.below element).spares location

/-- Locations below a location, as they are seen from there. -/
def belowAll (answers : Answers) (location : Location) : Answers :=
  fun other => answers (location ++ other)

variable {answers : Answers}

theorem Flat.below (hflat : answers.Flat) (element : Element) :
    (answers.below element).Flat :=
  fun location => hflat (element :: location)

theorem spares_iff {location : Location} :
    answers.spares location = true ↔
      ∀ ancestor, ancestor <+: location → ancestor ≠ location →
        answers ancestor = none := by
  induction location generalizing answers with
  | nil =>
      simp only [spares, List.prefix_nil, true_iff]
      exact fun ancestor hnil hne => absurd hnil hne
  | cons element location ih =>
      rw [spares, Bool.and_eq_true, Option.isNone_iff_eq_none, ih]
      constructor
      · rintro ⟨hroot, hbelow⟩ ancestor hbegins hne
        cases ancestor with
        | nil => exact hroot
        | cons other ancestor =>
            obtain ⟨rfl, hrest⟩ := List.cons_prefix_cons.1 hbegins
            exact hbelow ancestor hrest fun heq => hne (congrArg _ heq)
      · intro hancestors
        refine ⟨hancestors [] List.nil_prefix (List.cons_ne_nil _ _).symm, ?_⟩
        intro ancestor hbegins hne
        exact hancestors (element :: ancestor) (List.cons_prefix_cons.2 ⟨rfl, hbegins⟩)
          fun heq => hne (List.cons.inj heq).2

end Answers

namespace Json

variable {answers : Answers}

theorem rebuilt?_of_flat (hflat : answers.Flat) (value : Json) :
    value.rebuilt? answers = some (value.rebuild answers) := by
  cases hroot : answers [] with
  | none => exact rebuilt?_of_unlisted hroot value
  | some answer =>
      obtain ⟨new, rfl, -⟩ := hflat [] answer hroot
      rw [rebuild, rebuilt?_of_listed hroot, Option.getD_some]

theorem children_rebuild_of_listed (hflat : answers.Flat) {answer : Option Json}
    (hlisted : answers [] = some answer) (value : Json) :
    (value.rebuild answers).children = [] := by
  obtain ⟨new, rfl, hnew⟩ := hflat [] answer hlisted
  rwa [rebuild, rebuilt?_of_listed hlisted, Option.getD_some]

theorem zipIdx_rebuiltElements (hflat : answers.Flat) (place : Nat)
    (elements : List Json) : (rebuiltElements answers place elements).zipIdx place =
      (elements.zipIdx place).map fun (element, place) =>
        (element.rebuild (answers.below (.index place)), place) := by
  induction elements generalizing place with
  | nil => rfl
  | cons element elements ih =>
      rw [rebuiltElements, rebuilt?_of_flat (hflat.below _), Option.toList_some,
        List.singleton_append, List.zipIdx_cons, List.zipIdx_cons, List.map_cons, ih]

theorem rebuiltMembers_of_flat (hflat : answers.Flat) (members : Members) :
    rebuiltMembers answers members =
      members.map fun member =>
        (member.1, member.2.rebuild (answers.below (.key member.1))) := by
  induction members with
  | nil => rfl
  | cons member members ih =>
      rw [rebuiltMembers, rebuilt?_of_flat (hflat.below _), ih, Option.map_some,
        Option.toList_some, List.singleton_append, List.map_cons]

/-- A value that is not listed keeps its children in their places. -/
theorem children_rebuild (hflat : answers.Flat) (hunlisted : answers [] = none)
    (value : Json) :
    (value.rebuild answers).children =
      value.children.map fun child =>
        (child.1, child.2.rebuild (answers.below child.1)) := by
  cases value with
  | array elements =>
      rw [rebuild_array hunlisted, children, zipIdx_rebuiltElements hflat, children,
        List.map_map, List.map_map]
      rfl
  | object members =>
      rw [rebuild_object hunlisted, children, rebuiltMembers_of_flat hflat, children,
        List.map_map, List.map_map]
      rfl
  | null => simp [rebuild, rebuilt?, hunlisted, children]
  | bool _ => simp [rebuild, rebuilt?, hunlisted, children]
  | number _ => simp [rebuild, rebuilt?, hunlisted, children]
  | string _ => simp [rebuild, rebuilt?, hunlisted, children]

end Json

/-! Steps that do not look into values -/

def Step.isFilter : Step → Bool
  | .filter _ => true
  | _ => false

theorem Item.selected_of_children_eq_map {value value' : Json}
    {change : Element × Json → Json}
    (hchildren : value'.children = value.children.map fun child =>
      (child.1, change child)) (item : Item) :
    item.selected value' = (item.selected value).map fun child =>
      (child.1, change child) := by
  rw [selected, selected, hchildren, List.length_map, List.find?_map, Option.toList_map]
  rfl

/-- Where children stand under the same elements, a step that does not look into them
selects the same of them. -/
theorem Step.selected_of_children_eq_map (root root' : Json) {value value' : Json}
    {change : Element × Json → Json}
    (hchildren : value'.children = value.children.map fun child =>
      (child.1, change child)) {step : Step} (hstep : step.isFilter = false) :
    step.selected root' value' =
      (step.selected root value).map fun child => (child.1, change child) := by
  cases step with
  | key name => exact Item.selected_of_children_eq_map hchildren (.key name)
  | index position => exact Item.selected_of_children_eq_map hchildren (.index position)
  | wildcard => exact hchildren
  | descent => rfl
  | slice range =>
      rw [selected, selected, hchildren, List.length_map, List.filter_map]
      rfl
  | union items =>
      rw [selected, selected, List.map_flatMap]
      apply List.flatMap_congr
      intro item _
      exact item.selected_of_children_eq_map hchildren
  | filter predicate => cases hstep

theorem Step.selected_of_children_eq_nil (root : Json) {value : Json}
    (hchildren : value.children = []) (step : Step) : step.selected root value = [] := by
  apply List.eq_nil_iff_forall_not_mem.2
  intro child hchild
  have hmem := mem_children_of_mem_selected hchild
  rw [hchildren] at hmem
  cases hmem

/-! Matches that stay -/

/-- What a match becomes whose value stays where it is. -/
def Match.rebuild (answers : Answers) (found : Match) : Match :=
  ⟨found.location, found.value.rebuild (answers.belowAll found.location)⟩

/-- Those of some matches that are not below a listed location, with what
becomes of them. -/
def Answers.remaining (answers : Answers) (matched : List Match) : List Match :=
  (matched.filter fun found => answers.spares found.location).map (Match.rebuild answers)

namespace Answers

variable {answers : Answers}

theorem remaining_append (answers : Answers) (front back : List Match) :
    answers.remaining (front ++ back) =
      answers.remaining front ++ answers.remaining back := by
  rw [remaining, List.filter_append, List.map_append]
  rfl

theorem remaining_flatMap {α : Type} (answers : Answers) (xs : List α)
    (matched : α → List Match) :
    answers.remaining (xs.flatMap matched) =
      xs.flatMap fun x => answers.remaining (matched x) := by
  rw [remaining, List.filter_flatMap, List.map_flatMap]
  rfl

theorem remaining_map_under (hunlisted : answers [] = none) (element : Element)
    (matched : List Match) :
    answers.remaining (matched.map (Match.under element)) =
      ((answers.below element).remaining matched).map (Match.under element) := by
  rw [remaining, List.filter_map, List.map_map, remaining, List.map_map]
  have hspares :
      (fun found : Match => answers.spares found.location) ∘ Match.under element =
      fun found => (answers.below element).spares found.location := by
    funext found
    rw [Function.comp_apply, Match.under, spares, hunlisted]
    rfl
  rw [hspares]
  rfl

theorem remaining_map_under_of_listed {answer : Option Json}
    (hlisted : answers [] = some answer) (element : Element) (matched : List Match) :
    answers.remaining (matched.map (Match.under element)) = [] := by
  rw [remaining, List.map_eq_nil_iff, List.filter_eq_nil_iff]
  intro found hfound
  obtain ⟨inner, -, rfl⟩ := List.mem_map.1 hfound
  rw [Match.under, spares, hlisted]
  exact Bool.false_ne_true

end Answers

/-- After an edit with answers that hold nothing, steps that do not look into
values select again what they selected before, in the same order, except below the
listed locations. -/
theorem located_rebuild (root root' : Json) {steps : List Step}
    (hsteps : ∀ step ∈ steps, step.isFilter = false) {answers : Answers}
    (hflat : answers.Flat) (value : Json) :
    located root' steps (value.rebuild answers) =
      answers.remaining (located root steps value) := by
  induction steps generalizing value answers with
  | nil =>
      rw [located_nil, located_nil]
      rfl
  | cons step rest ih =>
      rw [List.forall_mem_cons] at hsteps
      by_cases hstep : step = .descent
      · subst hstep
        induction value using Json.childInduction generalizing answers with
        | step value ihChildren =>
            rw [located_descent, located_descent, Answers.remaining_append,
              Answers.remaining_flatMap, ih hsteps.2 hflat]
            congr 1
            cases hroot : answers [] with
            | none =>
                rw [Json.children_rebuild hflat hroot, List.flatMap_map]
                apply List.flatMap_congr
                intro child hchild
                rw [Answers.remaining_map_under hroot,
                  ihChildren child hchild (hflat.below child.1)]
            | some answer =>
                simp only [Json.children_rebuild_of_listed hflat hroot,
                  Answers.remaining_map_under_of_listed hroot, List.flatMap_nil]
                simp
      · rw [located_cons root hstep, located_cons root' hstep, Answers.remaining_flatMap]
        cases hroot : answers [] with
        | none =>
            rw [Step.selected_of_children_eq_map root root'
              (Json.children_rebuild hflat hroot value) hsteps.1, List.flatMap_map]
            apply List.flatMap_congr
            intro child _
            rw [Answers.remaining_map_under hroot, ih hsteps.2 (hflat.below child.1)]
        | some answer =>
            rw [Step.selected_of_children_eq_nil root'
              (Json.children_rebuild_of_listed hflat hroot value)]
            simp [Answers.remaining_map_under_of_listed hroot]

/-! Documents stay well formed -/

theorem Answers.Flat.wellFormed {answers : Answers} (hflat : answers.Flat) :
    answers.WellFormed := by
  intro location value hanswer
  obtain ⟨new, heq, hchildren⟩ := hflat location _ hanswer
  obtain rfl := Option.some.inj heq
  cases value with
  | array elements =>
      obtain rfl : elements = [] := by simpa [Json.children] using hchildren
      trivial
  | object members =>
      obtain rfl : members = [] := by simpa [Json.children] using hchildren
      exact ⟨List.nodup_nil, trivial⟩
  | _ => trivial

end JsonSelect
