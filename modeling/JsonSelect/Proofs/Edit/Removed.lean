/-
Selecting again after a removal.  The children that a container keeps move up
to other places, but keep their keys and their order; so steps that know keys
and no places find in what is left only what they found before, and nothing if
all of that has been taken away.
-/
import Mathlib
import JsonSelect.Proofs.Edit.Selected
import JsonSelect.Proofs.Path.Parse
import JsonSelect.Proofs.Selection.Ancestors

namespace JsonSelect

/-- Elements that are the same but for the places of indices. -/
inductive Element.Alike : Element → Element → Prop where
  | key (name : String) : Alike (.key name) (.key name)
  | index (place place' : Nat) : Alike (.index place) (.index place')

theorem Element.Alike.eq_key {element : Element} {name : String}
    (halike : element.Alike (.key name)) : element = .key name := by
  cases halike
  rfl

/-! What is left of a value -/

namespace Answers

/-- Every answer takes away what it is given for. -/
def Removing (answers : Answers) : Prop :=
  ∀ location answer, answers location = some answer → answer = none

/-- Neither a location nor anything above it is listed. -/
def Keeps (answers : Answers) (location : Location) : Prop :=
  ∀ ancestor, ancestor <+: location → answers ancestor = none

variable {answers : Answers}

theorem Removing.below (hremoving : answers.Removing) (element : Element) :
    (answers.below element).Removing :=
  fun location => hremoving (element :: location)

theorem Keeps.nil (hunlisted : answers [] = none) : answers.Keeps [] := by
  intro ancestor hbegins
  rw [List.prefix_nil.1 hbegins, hunlisted]

theorem Keeps.cons (hunlisted : answers [] = none) {element : Element}
    {location : Location} (hkeeps : (answers.below element).Keeps location) :
    answers.Keeps (element :: location) := by
  intro ancestor hbegins
  cases ancestor with
  | nil => exact hunlisted
  | cons other ancestor =>
      obtain ⟨rfl, hrest⟩ := List.cons_prefix_cons.1 hbegins
      exact hkeeps ancestor hrest

end Answers

namespace Json

variable {answers : Answers}

/-- Every child of what a value becomes is what some child of it has become. -/
theorem exists_of_mem_children_rebuild (hunlisted : answers [] = none) {value : Json}
    {new : Element × Json} (hnew : new ∈ (value.rebuild answers).children) :
    ∃ child ∈ value.children, child.1.Alike new.1 ∧
      child.2.rebuilt? (answers.below child.1) = some new.2 := by
  cases value with
  | array elements =>
      rw [rebuild_array hunlisted, children, List.mem_map] at hnew
      obtain ⟨⟨new, place'⟩, hmem, rfl⟩ := hnew
      obtain ⟨⟨element, place⟩, hpair, hrebuilt⟩ :=
        exists_of_mem_rebuiltElements (List.fst_mem_of_mem_zipIdx hmem)
      exact ⟨(.index place, element), List.mem_map_of_mem hpair, .index place place',
        hrebuilt⟩
  | object members =>
      rw [rebuild_object hunlisted, children, List.mem_map] at hnew
      obtain ⟨⟨name, new⟩, hmem, rfl⟩ := hnew
      obtain ⟨⟨name', member⟩, hmember, rfl, hrebuilt⟩ :=
        exists_of_mem_rebuiltMembers hmem
      exact ⟨(.key name', member), List.mem_map_of_mem hmember, .key name', hrebuilt⟩
  | null => simp [rebuild, rebuilt?, hunlisted, children] at hnew
  | bool _ => simp [rebuild, rebuilt?, hunlisted, children] at hnew
  | number _ => simp [rebuild, rebuilt?, hunlisted, children] at hnew
  | string _ => simp [rebuild, rebuilt?, hunlisted, children] at hnew

/-- After a removal the children are those that are not taken away, with what is
left of them. -/
theorem exists_kept_of_mem_children_rebuild (hremoving : answers.Removing)
    (hunlisted : answers [] = none) {value : Json} {new : Element × Json}
    (hnew : new ∈ (value.rebuild answers).children) :
    ∃ child ∈ value.children, child.1.Alike new.1 ∧ answers.below child.1 [] = none ∧
      new.2 = child.2.rebuild (answers.below child.1) := by
  obtain ⟨child, hchild, halike, hrebuilt⟩ :=
    exists_of_mem_children_rebuild hunlisted hnew
  refine ⟨child, hchild, halike, ?_⟩
  cases hlisted : answers.below child.1 [] with
  | none =>
      rw [rebuilt?_of_unlisted hlisted, Option.some.injEq] at hrebuilt
      exact ⟨rfl, hrebuilt.symm⟩
  | some answer =>
      rw [rebuilt?_of_listed hlisted,
        hremoving.below child.1 [] answer hlisted] at hrebuilt
      cases hrebuilt

end Json

/-! Steps that know no places -/

def Item.isKey : Item → Bool
  | .key _ => true
  | .index _ => false

/-- Whether a step selects children by their keys only, or all of them. -/
def Step.ignoresPlaces : Step → Bool
  | .key _ => true
  | .wildcard => true
  | .descent => true
  | .union items => items.all Item.isKey
  | _ => false

theorem Item.mem_selected_key_iff {value : Json} {name : String}
    {child : Element × Json} : child ∈ (Item.key name).selected value ↔
      child.1 = .key name ∧ value.child? (.key name) = some child.2 := by
  rw [← Json.childOfItem_eq_selected, Json.childOfItem, Json.childAt, Option.mem_toList,
    Option.map_eq_some_iff]
  constructor
  · rintro ⟨value, hvalue, rfl⟩
    exact ⟨rfl, hvalue⟩
  · rintro ⟨helement, hvalue⟩
    exact ⟨child.2, hvalue, Prod.ext helement.symm rfl⟩

/-- What a step selects that knows no places, it selects under every element
that is alike. -/
theorem Step.mem_selected_of_alike {root root' value value' : Json}
    (hwf : value.WellFormed) {step : Step} (hstep : step.ignoresPlaces = true)
    {child new : Element × Json} (hselected : new ∈ step.selected root' value')
    (hchild : child ∈ value.children) (halike : child.1.Alike new.1) :
    child ∈ step.selected root value := by
  have hkey (name : String) (hnew : new ∈ (Item.key name).selected value') :
      child ∈ (Item.key name).selected value := by
    rw [(Item.mem_selected_key_iff.1 hnew).1] at halike
    rw [Item.mem_selected_key_iff, ← halike.eq_key]
    exact ⟨rfl, (Json.child?_eq_some_iff hwf child.1 child.2).2 hchild⟩
  cases step with
  | key name => exact hkey name hselected
  | wildcard => exact hchild
  | descent => cases hselected
  | union items =>
      obtain ⟨item, hitem, hnew⟩ := List.mem_flatMap.1 hselected
      cases item with
      | key name => exact List.mem_flatMap.2 ⟨.key name, hitem, hkey name hnew⟩
      | index position => cases List.all_eq_true.1 hstep _ hitem
  | index position => cases hstep
  | slice range => cases hstep
  | filter predicate => cases hstep

namespace Step

/-- What steps that know no places find in what a removal leaves, they found before at a
location that is kept. -/
theorem exists_kept_of_mem_placed_rebuild (root root' : Json) {steps : List Step}
    (hsteps : ∀ step ∈ steps, step.ignoresPlaces = true) {answers : Answers}
    (hremoving : answers.Removing) (hunlisted : answers [] = none) {value : Json}
    (hwf : value.WellFormed) {location' : Location}
    (hlocation' : location' ∈ placed root' steps (value.rebuild answers)) :
    ∃ location ∈ placed root steps value, answers.Keeps location := by
  induction steps generalizing value answers location' with
  | nil => exact ⟨[], by rw [placed_nil]; exact List.mem_singleton_self _, .nil hunlisted⟩
  | cons step rest ih =>
      rw [List.forall_mem_cons] at hsteps
      by_cases hstep : step = .descent
      · subst hstep
        induction value using Json.childInduction generalizing answers location' with
        | step value ihChildren =>
            rw [placed_descent, List.mem_append, List.mem_flatMap] at hlocation'
            simp only [placed_descent rest value, List.mem_append, List.mem_flatMap,
              List.mem_map]
            rcases hlocation' with hhere | ⟨new, hnew, hbelow⟩
            · obtain ⟨location, hlocation, hkeeps⟩ :=
                ih hsteps.2 hremoving hunlisted hwf hhere
              exact ⟨location, Or.inl hlocation, hkeeps⟩
            · obtain ⟨child, hchild, -, hkept, hvalue⟩ :=
                Json.exists_kept_of_mem_children_rebuild hremoving hunlisted hnew
              obtain ⟨inner, hinner, -⟩ := List.mem_map.1 hbelow
              rw [hvalue] at hinner
              obtain ⟨location, hlocation, hkeeps⟩ := ihChildren child hchild
                (hremoving.below child.1) hkept (hwf.of_mem_children hchild) hinner
              exact ⟨child.1 :: location,
                Or.inr ⟨child, hchild, location, hlocation, rfl⟩, hkeeps.cons hunlisted⟩
      · obtain ⟨new, hnew, inner, hinner, -⟩ := (mem_placed_cons_iff hstep).1 hlocation'
        obtain ⟨child, hchild, halike, hkept, hvalue⟩ :=
          Json.exists_kept_of_mem_children_rebuild hremoving hunlisted
            (mem_children_of_mem_selected hnew)
        rw [hvalue] at hinner
        obtain ⟨location, hlocation, hkeeps⟩ :=
          ih hsteps.2 (hremoving.below child.1) hkept
          (hwf.of_mem_children hchild) hinner
        exact ⟨child.1 :: location, (mem_placed_cons_iff hstep).2
          ⟨child, mem_selected_of_alike hwf hsteps.1 hnew hchild halike, location,
            hlocation, rfl⟩, hkeeps.cons hunlisted⟩

end Step

namespace Path

theorem exists_ne_descent_of_readPath [JsonReader] {text : String} {path : Path}
    (hread : readPath text = .ok path) (hsteps : path.steps ≠ []) :
    ∃ step ∈ path.steps, step ≠ .descent := by
  rw [readPath] at hread
  cases hoftext : ofText? text with
  | ok path' =>
      rw [hoftext] at hread
      obtain rfl := Except.ok.inj hread
      exact exists_ne_descent_of_ofText? hoftext hsteps
  | error error =>
      rw [hoftext] at hread
      cases hread

/-- Where everything is taken away that a path of keys, wildcards, descents and unions
of keys selects, the path selects nothing any more. -/
theorem queryLocated_remove_eq_nil [JsonReader] (document : Json)
    (hwf : document.WellFormed) {text : String} {path : Path}
    (hread : readPath text = .ok path) (hsteps : path.steps ≠ [])
    (hplaces : ∀ step ∈ path.steps, step.ignoresPlaces = true) :
    ∃ removed, JsonSelect.remove document text = .ok removed ∧
      path.queryLocated removed = [] := by
  refine ⟨document.removeAt (path.locate document), ?_, ?_⟩
  · rw [JsonSelect.remove, hread]
    rfl
  · set answers := Answers.all (path.locate document) none with hanswers
    have hremoved : document.removeAt (path.locate document) = document.rebuild answers :=
      Json.tryReplaceAt_const hwf (path.locate document) none
    have hremoving : answers.Removing := by
      intro location answer hanswer
      exact (Answers.all_eq_some_iff.1 hanswer).2.symm
    have hunlisted : answers [] = none := by
      rw [hanswers, Answers.all_eq_none_iff, locate_eq_placed]
      exact Step.nil_notMem_placed document (exists_ne_descent_of_readPath hread hsteps) _
    rw [hremoved, queryLocated_eq_located, List.eq_nil_iff_forall_not_mem]
    intro found hfound
    obtain ⟨location, hlocation, hkeeps⟩ :=
      Step.exists_kept_of_mem_placed_rebuild document _
      hplaces hremoving hunlisted hwf (List.mem_map_of_mem hfound)
    have hunmatched := hkeeps location List.prefix_rfl
    rw [hanswers, Answers.all_eq_none_iff, locate_eq_placed] at hunmatched
    exact hunmatched hlocation

/-- One match is in another.  An element of the array and a member beside the inner
match stay, and under the same keys as before nothing is found. -/
theorem queryLocated_remove_eq_nil_nested :
    (Json.array [.object [("a", .object [("b", .null), ("c", .null)]),
      ("c", .null)]]).WellFormed ∧
      readPath "$..*['a','b']" =
        .ok ⟨[.descent, .wildcard, .union [.key "a", .key "b"]]⟩ ∧
      [Step.descent, .wildcard, .union [.key "a", .key "b"]] ≠ [] ∧
      (∀ step ∈ [Step.descent, .wildcard, .union [.key "a", .key "b"]],
        step.ignoresPlaces = true) ∧
      JsonSelect.remove
          (.array [.object [("a", .object [("b", .null), ("c", .null)]), ("c", .null)]])
          "$..*['a','b']" = .ok (.array [.object [("c", .null)]]) ∧
      Path.queryLocated ⟨[.descent, .wildcard, .union [.key "a", .key "b"]]⟩
          (.array [.object [("c", .null)]]) = [] := by
  have hwf : (Json.array [.object [("a", .object [("b", .null), ("c", .null)]),
      ("c", .null)]]).WellFormed := by
    simp [Json.WellFormed, Json.AllWellFormed, Json.MembersWellFormed, Json.Members.keys]
  have hread : readPath "$..*['a','b']" =
      .ok ⟨[.descent, .wildcard, .union [.key "a", .key "b"]]⟩ := by cbv
  have hsteps : [Step.descent, .wildcard, .union [.key "a", .key "b"]] ≠ [] :=
    List.cons_ne_nil _ _
  have hplaces : ∀ step ∈ [Step.descent, .wildcard, .union [.key "a", .key "b"]],
      step.ignoresPlaces = true := by decide
  have hremove : JsonSelect.remove
      (.array [.object [("a", .object [("b", .null), ("c", .null)]), ("c", .null)]])
      "$..*['a','b']" = .ok (.array [.object [("c", .null)]]) := by
    rw [JsonSelect.remove, hread]
    exact congrArg Except.ok ((Json.tryReplaceAt_const hwf _ none).trans (by cbv))
  obtain ⟨removed, hremoved, hnone⟩ :=
    queryLocated_remove_eq_nil _ hwf hread hsteps hplaces
  obtain rfl := Except.ok.inj (hremove.symm.trans hremoved)
  exact ⟨hwf, hread, hsteps, hplaces, hremove, hnone⟩

end Path

end JsonSelect
