/-
Locations as paths.  The text of a location is the text of a path, whose steps
name the elements of the location one by one, and the path selects the one node
to which the location leads, or nothing.
-/
import Mathlib
import JsonSelect.Location.Writer
import JsonSelect.Proofs.Path.Parse
import JsonSelect.Proofs.Path.WrittenTexts
import JsonSelect.Proofs.Selection.Queries

namespace JsonSelect

/-- The step is a key or an index, and the element is that key or stands at that index. -/
inductive Element.NamedBy : Element → Step → Prop where
  | key (name : String) : NamedBy (.key name) (.key name)
  | index {place : Nat} {position : Int64} (hposition : position.toInt = place) :
      NamedBy (.index place) (.index position)

/-- Each step names the element in its place, and there are no others. -/
abbrev Location.NamedBy (location : Location) (steps : List Step) : Prop :=
  List.Forall₂ Element.NamedBy location steps

theorem Element.exists_namedBy {element : Element}
    (hplace : ∀ place, element = .index place → place < 0x8000000000000000) :
    ∃ step, element.NamedBy step := by
  cases element with
  | key name => exact ⟨.key name, .key name⟩
  | index place =>
      have hlt := hplace place rfl
      exact ⟨.index (Int64.ofInt place),
        .index (Int64.toInt_ofInt_of_le (by omega) (by omega))⟩

/-- Every location can be named by steps, as long as its places are counted
with 63 bits. -/
theorem Location.exists_namedBy {location : Location}
    (hplaces : ∀ place, .index place ∈ location → place < 0x8000000000000000) :
    ∃ steps, location.NamedBy steps := by
  induction location with
  | nil => exact ⟨[], .nil⟩
  | cons element location ih =>
      obtain ⟨steps, hsteps⟩ := ih fun place hmem =>
        hplaces place (List.mem_cons_of_mem _ hmem)
      have hplace : ∀ place, element = .index place → place < 0x8000000000000000 := by
        rintro place rfl
        exact hplaces place List.mem_cons_self
      obtain ⟨step, hstep⟩ := Element.exists_namedBy hplace
      exact ⟨step :: steps, .cons hstep hsteps⟩

/-! The text -/

open Path.Grammar in
/-- What is written for an element is what a bracket is for the step that names it. -/
theorem Element.NamedBy.bracket {element : Element} {step : Step}
    (hstep : element.NamedBy step) (after : Text) :
    Bracket Disjunction (element.write after) step after := by
  cases hstep with
  | key name => exact .intro (.nil _) (.sole (Path.itemText_write (.key name) _)) (.nil _)
  | index hposition =>
      rename_i place position
      have hdigits : Numeral.ofInt position.toInt = Numeral.ofNat place := by
        rw [hposition, Numeral.ofInt, if_neg (by omega), Int.natAbs_natCast]
      have hitem := Path.itemText_write (.index position) (']' :: after)
      rw [Item.write, hdigits] at hitem
      exact .intro (.nil _) (.sole hitem) (.nil _)

open Path.Grammar in
theorem Location.NamedBy.segments {location : Location} {steps : List Step}
    (hsteps : location.NamedBy steps) (after : Text) :
    Segments Disjunction
      (location.foldr (fun element after => element.write after) after) steps after := by
  induction hsteps with
  | nil => exact .nil after
  | cons hstep _ ih => exact .bracket (hstep.bracket _) ih

/-- A location is written as a path that is read back with the steps that name it. -/
theorem Location.NamedBy.ofText?_eq_ok {location : Location} {steps : List Step}
    (hsteps : location.NamedBy steps) : Path.ofText? location.toText = .ok ⟨steps⟩ := by
  rw [Path.ofText?_eq_ok, Path.parse_eq_ok_iff, Location.toText, String.toList_ofList]
  exact .intro (.nil _) (hsteps.segments []) (.nil _)

/-! The selection -/

/-- An index from the start selects what stands at that place. -/
theorem Json.childAtPosition_eq_childAt {place : Nat} {position : Int64}
    (hposition : position.toInt = place) (value : Json) :
    value.childAtPosition position = value.childAt (.index place) := by
  cases value with
  | array elements =>
      have hnamed (size : Nat) : namedPlace position size = place := by
        rw [namedPlace, if_neg (by omega), hposition]
      rw [childAtPosition]
      cases hplace : placeOfIndex? position elements.length with
      | some found =>
          obtain ⟨-, hfound⟩ := placeOfIndex?_eq_some_iff.1 hplace
          rw [hnamed] at hfound
          rw [Int.ofNat_inj.1 hfound]
      | none =>
          have hout : elements.length ≤ place := by
            by_contra hin
            have hsome :=
              placeOfIndex?_eq_some_iff.2 ⟨Nat.lt_of_not_le hin, (hnamed _).symm⟩
            rw [hplace] at hsome
            cases hsome
          rw [childAt, child?, List.getElem?_eq_none hout]
          rfl
  | _ => rfl

/-- The step that names an element selects its child, and nothing if there is none. -/
theorem Element.NamedBy.selected {element : Element} {step : Step}
    (hstep : element.NamedBy step) (root value : Json) :
    step.selected root value = value.childAt element := by
  cases hstep with
  | key name => exact (value.childOfItem_eq_selected (.key name)).symm
  | index hposition =>
      rw [← Json.childAtPosition_eq_childAt hposition]
      exact (value.childAtPosition_eq_selected _).symm

theorem Element.NamedBy.ne_descent {element : Element} {step : Step}
    (hstep : element.NamedBy step) : step ≠ .descent := by
  rintro rfl
  cases hstep

/-- The steps that name a location find the value there, once and at that location. -/
theorem Location.NamedBy.located_eq {location : Location} {steps : List Step}
    (hsteps : location.NamedBy steps) (root value : Json) :
    located root steps value =
      ((value.resolve? location).map (Match.mk location)).toList := by
  induction hsteps generalizing value with
  | nil => rw [located_nil, Json.resolve?, Option.map_some, Option.toList_some]
  | @cons element step location steps hstep _ ih =>
      rw [located_cons root hstep.ne_descent, hstep.selected, Json.childAt, Json.resolve?]
      cases hchild : value.child? element with
      | none => rfl
      | some child =>
          rw [Option.map_some, Option.toList_some, List.flatMap_singleton, ih,
            Option.bind_some]
          cases child.resolve? location with
          | none => rfl
          | some found => rfl

/-- The text of a location is read as a path whose steps are its elements, and in every
document the path selects the value at the location, there and once, or nothing if there
is no such value. -/
theorem Location.toText_selects (location : Location)
    (hplaces : ∀ place, .index place ∈ location → place < 0x8000000000000000) :
    ∃ path : Path, Path.ofText? location.toText = .ok path ∧ location.NamedBy path.steps ∧
      ∀ document : Json, path.queryLocated document =
        ((document.resolve? location).map (Match.mk location)).toList := by
  obtain ⟨steps, hsteps⟩ := location.exists_namedBy hplaces
  refine ⟨⟨steps⟩, hsteps.ofText?_eq_ok, hsteps, fun document => ?_⟩
  rw [Path.queryLocated_eq_located]
  exact hsteps.located_eq document document

/-- Keys that are empty, or full of quotes, backslashes and control characters. -/
theorem Location.toText_selects_escaped :
    (∀ place, .index place ∈ ([.key "", .key "'\"\\\n\x85", .index 1] : Location) →
      place < 0x8000000000000000) ∧
    ∃ path : Path,
      Path.ofText? (Location.toText [.key "", .key "'\"\\\n\x85", .index 1]) = .ok path ∧
      path.queryLocated
        (.object [("", .object [("'\"\\\n\x85", .array [.null, .bool true])])]) =
        [⟨[.key "", .key "'\"\\\n\x85", .index 1], .bool true⟩] := by
  have hplaces : ∀ place,
      .index place ∈ ([.key "", .key "'\"\\\n\x85", .index 1] : Location) →
        place < 0x8000000000000000 := by
    intro place hmem
    simp at hmem
    omega
  obtain ⟨path, hread, -, hselects⟩ := Location.toText_selects _ hplaces
  refine ⟨hplaces, path, hread, (hselects _).trans ?_⟩
  rfl

end JsonSelect
