/-
What a write leaves alone.  To go to a location in order to write there is to
find what is found by looking it up, and afterwards the new value is there, what
is elsewhere is as it was, and the containers on the way have kept their form.
-/
import Mathlib
import JsonSelect.Proofs.Edit.Writes
import JsonSelect.Proofs.Location.Children

namespace JsonSelect

open Json (Members)

/-! Going to a location -/

/-- What stands somewhere in a document, and what the document becomes with something
else in its place. -/
structure Site where
  value : Json
  fill : Json → Json

def Site.child? (site : Site) (element : Element) : Option Site :=
  match element, site.value with
  | .key name, .object members =>
      (Members.get? members name).map fun child =>
        ⟨child, fun new => site.fill (.object (Members.put members name new))⟩
  | .index position, .array elements =>
      elements[position]?.map fun child =>
        ⟨child, fun new => site.fill (.array (elements.set position new))⟩
  | _, _ => none

/-- Goes into a document, from each container to a child, as long as the
child is there. -/
def Json.site? (document : Json) (location : Location) : Option Site :=
  location.foldlM Site.child? ⟨document, id⟩

namespace Site

theorem child?_eq (site : Site) (element : Element) :
    site.child? element = (site.value.child? element).map fun child =>
      ⟨child, fun new => site.fill (site.value.setChild element new)⟩ := by
  obtain ⟨value, fill⟩ := site
  cases element <;> cases value <;> rfl

theorem map_value_foldlM_child? (site : Site) (location : Location) :
    (location.foldlM child? site).map value = site.value.resolve? location := by
  induction location generalizing site with
  | nil => rfl
  | cons element location ih =>
      rw [List.foldlM_cons, child?_eq, Json.resolve?]
      cases site.value.child? element with
      | none => rfl
      | some child => exact ih _

/-- A change at a location below a site is a change of what stands there. -/
theorem map_fill_update? (f : Json → Json) (site : Site) (location : Location) :
    (site.value.update? f location).map site.fill =
      (location.foldlM child? site).map fun inner => inner.fill (f inner.value) := by
  induction location generalizing site with
  | nil => rfl
  | cons element location ih =>
      rw [List.foldlM_cons, child?_eq, Json.update?]
      cases site.value.child? element with
      | none => rfl
      | some child =>
          rw [Option.bind_some, Option.map_map]
          exact ih ⟨child, fun new => site.fill (site.value.setChild element new)⟩

end Site

namespace Json

theorem map_value_site? (document : Json) (location : Location) :
    (document.site? location).map Site.value = document.resolve? location :=
  Site.map_value_foldlM_child? ⟨document, id⟩ location

theorem update?_eq_map_site? (f : Json → Json) (document : Json) (location : Location) :
    document.update? f location =
      (document.site? location).map fun site => site.fill (f site.value) := by
  have hfill := Site.map_fill_update? f ⟨document, id⟩ location
  rw [Option.map_id_fun, id] at hfill
  exact hfill

/-! Writing there -/

section Written

variable {document written new : Json} {location : Location}

theorem exists_set? {found : Json} (hfound : document.resolve? location = some found)
    (new : Json) : ∃ written, document.set? location new = some written := by
  rw [← Option.isSome_iff_exists, set?, update?_isSome, hfound]
  rfl

theorem set?_cons_eq_some_iff {element : Element} :
    document.set? (element :: location) new = some written ↔
      ∃ child child', document.child? element = some child ∧
        child.set? location new = some child' ∧
          document.setChild element child' = written := by
  simp only [set?, update?, Option.map_eq_some_iff, Option.bind_eq_some_iff]
  constructor
  · rintro ⟨child', ⟨child, hchild, hset⟩, hwritten⟩
    exact ⟨child, child', hchild, hset, hwritten⟩
  · rintro ⟨child, child', hchild, hset, hwritten⟩
    exact ⟨child', ⟨child, hchild, hset⟩, hwritten⟩

/-- At the location and below it is what was written. -/
theorem resolve?_append_of_set? (hset : document.set? location new = some written)
    (rest : Location) : written.resolve? (location ++ rest) = new.resolve? rest := by
  induction location generalizing document written with
  | nil => exact congrArg (resolve? · rest) (Option.some.inj hset).symm
  | cons element location ih =>
      obtain ⟨child, child', hchild, hinner, rfl⟩ := set?_cons_eq_some_iff.1 hset
      rw [List.cons_append, resolve?, child?_setChild hchild, if_pos rfl]
      exact ih hinner

/-- What is neither above nor below the location is as it was. -/
theorem resolve?_of_apart_of_set? (hset : document.set? location new = some written)
    {other : Location} (hapart : location.Apart other) :
    written.resolve? other = document.resolve? other := by
  induction location generalizing document written other with
  | nil => exact absurd other.nil_prefix hapart.1
  | cons element location ih =>
      obtain ⟨child, child', hchild, hinner, rfl⟩ := set?_cons_eq_some_iff.1 hset
      cases other with
      | nil => exact absurd List.nil_prefix hapart.2
      | cons element' other =>
          rw [resolve?, resolve?, child?_setChild hchild]
          by_cases heq : element = element'
          · subst heq
            rw [if_pos rfl, hchild]
            exact ih hinner hapart.of_cons
          · rw [if_neg heq]

/-- Two containers of one kind that have their children at the same places: arrays of
one length, or objects with the same keys in the same order. -/
inductive SameFrame : Json → Json → Prop where
  | array {elements elements' : List Json}
      (hlength : elements.length = elements'.length) :
      SameFrame (.array elements) (.array elements')
  | object {members members' : Members}
      (hkeys : Members.keys members = Members.keys members') :
      SameFrame (.object members) (.object members')

theorem Members.keys_put {members : Members} {name : String} {value : Json}
    (hget : get? members name = some value) (new : Json) :
    keys (put members name new) = keys members := by
  obtain ⟨front, back, rfl, hfront⟩ := exists_append_of_get?_eq_some hget
  rw [put_append_cons hfront]
  simp [keys]

theorem sameFrame_setChild {value child : Json} {element : Element}
    (hchild : value.child? element = some child) (new : Json) :
    value.SameFrame (value.setChild element new) := by
  obtain ⟨elements, place, rfl, rfl, -⟩ | ⟨members, name, rfl, rfl, hget⟩ :=
    container_of_child? hchild
  · exact .array List.length_set.symm
  · exact .object (Members.keys_put hget new).symm

/-- The containers on the way to the location keep their form. -/
theorem sameFrame_of_set? (hset : document.set? location new = some written)
    {above : Location} (habove : above <+: location) (hne : above ≠ location) :
    ∃ before after, document.resolve? above = some before ∧
      written.resolve? above = some after ∧ before.SameFrame after := by
  induction location generalizing document written above with
  | nil => exact absurd (List.prefix_nil.1 habove) hne
  | cons element location ih =>
      obtain ⟨child, child', hchild, hinner, rfl⟩ := set?_cons_eq_some_iff.1 hset
      cases above with
      | nil => exact ⟨_, _, rfl, rfl, sameFrame_setChild hchild child'⟩
      | cons element' above =>
          obtain ⟨rfl, hrest⟩ := List.cons_prefix_cons.1 habove
          rw [resolve?, resolve?, child?_setChild hchild, if_pos rfl, hchild]
          exact ih hinner hrest fun heq => hne (congrArg _ heq)

/-- What was written at the location is gone when the location is written again. -/
theorem set?_of_set? (hset : document.set? location new = some written) (newer : Json) :
    written.set? location newer = document.set? location newer := by
  induction location generalizing document written with
  | nil => rfl
  | cons element location ih =>
      obtain ⟨child, child', hchild, hinner, rfl⟩ := set?_cons_eq_some_iff.1 hset
      have ih := ih hinner
      rw [set?] at ih
      rw [set?, set?, update?, update?, child?_setChild hchild, if_pos rfl, hchild,
        Option.bind_some, Option.bind_some, ih]
      exact congrArg (Option.map · _) (funext (setChild_setChild_self hchild child'))

end Written

/-- Nothing changes where what is there is written. -/
theorem set?_resolve? {document found : Json} {location : Location}
    (hfound : document.resolve? location = some found) :
    document.set? location found = some document := by
  induction location generalizing document with
  | nil => exact hfound.symm
  | cons element location ih =>
      obtain ⟨child, hchild, hfound⟩ := Option.bind_eq_some_iff.1 hfound
      exact set?_cons_eq_some_iff.2 ⟨child, child, hchild, ih hfound,
        setChild_eq_self hchild⟩

/-- Going to a location in order to change something finds exactly what looking it up
finds.  Where something is found it can be overwritten: then the new value is there with
all that is in it, what is at other locations is as it was, and the containers above
have kept their form.  To write what was found changes nothing, and of two writes the
second counts. -/
theorem set?_changes_only_there (document : Json) (location : Location) :
    (document.site? location).map Site.value = document.resolve? location ∧
    (∀ f : Json → Json, document.update? f location =
      (document.site? location).map fun site => site.fill (f site.value)) ∧
    ∀ found, document.resolve? location = some found →
      document.set? location found = some document ∧
      ∀ new, ∃ written, document.set? location new = some written ∧
        (∀ rest, written.resolve? (location ++ rest) = new.resolve? rest) ∧
        (∀ other, location.Apart other →
          written.resolve? other = document.resolve? other) ∧
        (∀ above, above <+: location → above ≠ location →
          ∃ before after, document.resolve? above = some before ∧
            written.resolve? above = some after ∧ before.SameFrame after) ∧
        ∀ newer, written.set? location newer = document.set? location newer := by
  refine ⟨map_value_site? document location, fun f =>
    update?_eq_map_site? f document location,
    fun found hfound => ⟨set?_resolve? hfound, fun new => ?_⟩⟩
  obtain ⟨written, hset⟩ := exists_set? hfound new
  exact ⟨written, hset, resolve?_append_of_set? hset, fun _ =>
    resolve?_of_apart_of_set? hset, fun _ => sameFrame_of_set? hset, set?_of_set? hset⟩

/-- A key is given a new value in an object in an array in an object.  The element before
that object is as it was, and a key of the outer object leads no further than before. -/
theorem set?_changes_only_there_nested :
    let document := object [("a", .array [.null, .object [("b", .null), ("c", .null)]])]
    let location : Location := [.key "a", .index 1, .key "b"]
    document.resolve? location = some .null ∧
      ∃ written, document.set? location (.array [.bool true]) = some written ∧
        written.resolve? (location ++ [.index 0]) = some (.bool true) ∧
        location.Apart [.key "a", .index 0] ∧
        written.resolve? [.key "a", .index 0] = some .null ∧
        location.Apart [.key "a", .key "b"] ∧
        written.resolve? [.key "a", .key "b"] = none ∧
        (∃ before after, document.resolve? [.key "a", .index 1] = some before ∧
          written.resolve? [.key "a", .index 1] = some after ∧ before.SameFrame after) ∧
        written.set? location .null = some document := by
  intro document location
  have hfound : document.resolve? location = some .null := rfl
  obtain ⟨hback, hwrite⟩ := (set?_changes_only_there document location).2.2 .null hfound
  obtain ⟨written, hset, hbelow, hapart, habove, hagain⟩ := hwrite (.array [.bool true])
  have hbefore : location.Apart [.key "a", .index 0] := ⟨by decide, by decide⟩
  have hmismatch : location.Apart [.key "a", .key "b"] := ⟨by decide, by decide⟩
  refine ⟨hfound, written, hset, hbelow [.index 0], hbefore, hapart _ hbefore, hmismatch,
    hapart _ hmismatch, habove _ ?_ ?_, (hagain .null).trans hback⟩
  · decide
  · decide

end Json

end JsonSelect
