/-
Values that are written into a document one after another.  A write touches
nothing but its location and what is below it: two writes of which neither is
below the other can change places, and a write undoes those below it.
-/
import Mathlib
import JsonSelect.Location.Basic

namespace JsonSelect
namespace Json

namespace Members

theorem put_put_self (members : Members) (name : String) (value new : Json) :
    put (put members name value) name new = put members name new := by
  induction members with
  | nil => simp [put]
  | cons member members ih =>
      by_cases hname : member.1 = name
      · simp [put, hname]
      · simp [put, hname, ih]

/-- Of two members that get new values, one has to be there, since a new member
goes to the end. -/
theorem put_comm {members : Members} {name name' : String} (hne : name ≠ name')
    (hname : (get? members name).isSome) (value value' : Json) :
    put (put members name value) name' value' =
      put (put members name' value') name value := by
  induction members with
  | nil => cases hname
  | cons member members ih =>
      by_cases hhead : member.1 = name
      · simp [put, hhead, hne]
      · rw [get?_cons, if_neg hhead] at hname
        by_cases hhead' : member.1 = name'
        · simp [put, hhead', hne.symm]
        · simp [put, hhead, hhead', ih hname]

theorem put_eq_self {members : Members} {name : String} {value : Json}
    (hget : get? members name = some value) : put members name value = members := by
  induction members with
  | nil => cases hget
  | cons member members ih =>
      rw [get?_cons] at hget
      by_cases hname : member.1 = name
      · rw [if_pos hname, Option.some.injEq] at hget
        rw [put, if_pos hname, ← hname, ← hget]
      · rw [if_neg hname] at hget
        rw [put, if_neg hname, ih hget]

end Members

section Child

variable {value child : Json} {element : Element}

/-- A child is an element of an array or a member of an object. -/
theorem container_of_child? (hchild : value.child? element = some child) :
    (∃ elements place, value = .array elements ∧ element = .index place ∧
      elements[place]? = some child) ∨
    ∃ members name, value = .object members ∧ element = .key name ∧
      Members.get? members name = some child := by
  cases value with
  | array elements =>
      cases element with
      | key _ => cases hchild
      | index place => exact Or.inl ⟨elements, place, rfl, rfl, hchild⟩
  | object members =>
      cases element with
      | key name => exact Or.inr ⟨members, name, rfl, rfl, hchild⟩
      | index _ => cases hchild
  | null => cases element <;> cases hchild
  | bool _ => cases element <;> cases hchild
  | number _ => cases element <;> cases hchild
  | string _ => cases element <;> cases hchild

theorem child?_setChild (hchild : value.child? element = some child) (new : Json)
    (other : Element) :
    (value.setChild element new).child? other =
      if element = other then some new else value.child? other := by
  obtain ⟨elements, place, rfl, rfl, hget⟩ | ⟨members, name, rfl, rfl, -⟩ :=
    container_of_child? hchild
  · have hlt := (List.getElem?_eq_some_iff.1 hget).1
    cases other with
    | key _ => rfl
    | index place' =>
        simp only [setChild, child?, List.getElem?_set, Element.index.injEq, if_pos hlt]
  · cases other with
    | key name' => simp only [setChild, child?, Members.get?_put, Element.key.injEq]
    | index _ => rfl

theorem setChild_setChild_self (hchild : value.child? element = some child)
    (old new : Json) :
    (value.setChild element old).setChild element new = value.setChild element new := by
  obtain ⟨elements, place, rfl, rfl, -⟩ | ⟨members, name, rfl, rfl, -⟩ :=
    container_of_child? hchild
  · simp only [setChild, List.set_set]
  · simp only [setChild, Members.put_put_self]

theorem setChild_comm {other : Element} (hne : element ≠ other)
    (hchild : value.child? element = some child) (new new' : Json) :
    (value.setChild element new).setChild other new' =
      (value.setChild other new').setChild element new := by
  obtain ⟨elements, place, rfl, rfl, -⟩ | ⟨members, name, rfl, rfl, hget⟩ :=
    container_of_child? hchild
  · cases other with
    | key _ => rfl
    | index place' =>
        simp only [setChild,
          List.set_comm _ _ fun heq => hne (congrArg Element.index heq)]
  · cases other with
    | key name' =>
        have hname : name ≠ name' := fun heq => hne (congrArg Element.key heq)
        simp only [setChild, Members.put_comm hname (Option.isSome_of_eq_some hget)]
    | index _ => rfl

theorem setChild_eq_self (hchild : value.child? element = some child) :
    value.setChild element child = value := by
  obtain ⟨elements, place, rfl, rfl, hget⟩ | ⟨members, name, rfl, rfl, hget⟩ :=
    container_of_child? hchild
  · obtain ⟨hlt, rfl⟩ := List.getElem?_eq_some_iff.1 hget
    rw [setChild, List.set_getElem_self]
  · rw [setChild, Members.put_eq_self hget]

end Child

/-- Changes a child, if it is there. -/
def adjust (value : Json) (element : Element) (change : Json → Json) : Json :=
  match value.child? element with
  | some child => value.setChild element (change child)
  | none => value

section Adjust

variable {value child : Json} {element : Element}

theorem adjust_of_child (hchild : value.child? element = some child)
    (change : Json → Json) :
    value.adjust element change = value.setChild element (change child) := by
  rw [adjust, hchild]

theorem adjust_of_missing (hchild : value.child? element = none) (change : Json → Json) :
    value.adjust element change = value := by
  rw [adjust, hchild]

theorem adjust_adjust_self (value : Json) (element : Element)
    (change change' : Json → Json) :
    (value.adjust element change).adjust element change' =
      value.adjust element fun child => change' (change child) := by
  cases hchild : value.child? element with
  | none =>
      rw [adjust_of_missing hchild, adjust_of_missing hchild, adjust_of_missing hchild]
  | some child =>
      have hchanged := child?_setChild hchild (change child) element
      rw [if_pos rfl] at hchanged
      rw [adjust_of_child hchild, adjust_of_child hchild, adjust_of_child hchanged,
        setChild_setChild_self hchild]

theorem child?_adjust_of_ne {other : Element} (hne : element ≠ other) (value : Json)
    (change : Json → Json) :
    (value.adjust element change).child? other = value.child? other := by
  cases hchild : value.child? element with
  | none => rw [adjust_of_missing hchild]
  | some child => rw [adjust_of_child hchild, child?_setChild hchild, if_neg hne]

theorem adjust_comm {other : Element} (hne : element ≠ other) (value : Json)
    (change change' : Json → Json) :
    (value.adjust element change).adjust other change' =
      (value.adjust other change').adjust element change := by
  have hsame := child?_adjust_of_ne hne value change
  have hsame' := child?_adjust_of_ne hne.symm value change'
  cases hchild : value.child? element with
  | none => rw [adjust_of_missing hchild, adjust_of_missing (hsame'.trans hchild)]
  | some child =>
      cases hother : value.child? other with
      | none => rw [adjust_of_missing hother, adjust_of_missing (hsame.trans hother)]
      | some child' =>
          rw [adjust_of_child (hsame.trans hother), adjust_of_child (hsame'.trans hchild),
            adjust_of_child hchild, adjust_of_child hother, setChild_comm hne hchild]

end Adjust

/-- Writes a value at a location.  Where the location leads nowhere nothing is done. -/
def overwrite (document : Json) (location : Location) (value : Json) : Json :=
  (document.set? location value).getD document

theorem overwrite_cons (document : Json) (element : Element) (location : Location)
    (value : Json) :
    document.overwrite (element :: location) value =
      document.adjust element fun child => child.overwrite location value := by
  simp only [overwrite, set?, update?]
  cases hchild : document.child? element with
  | none => exact (adjust_of_missing hchild _).symm
  | some child =>
      rw [adjust_of_child hchild, Option.bind_some]
      cases child.update? (fun _ => value) location with
      | none => exact (setChild_eq_self hchild).symm
      | some child' => rfl

/-- What is written at a location or below it is gone when that location is written. -/
theorem overwrite_overwrite_of_below {outer location : Location}
    (hbegins : outer <+: location) (document inner value : Json) :
    (document.overwrite location inner).overwrite outer value =
      document.overwrite outer value := by
  induction outer generalizing document location with
  | nil => rfl
  | cons element outer ih =>
      obtain ⟨below, rfl⟩ := hbegins
      simp only [List.cons_append, overwrite_cons, adjust_adjust_self,
        ih (List.prefix_append outer below)]

end Json

/-- Neither of two locations is below the other. -/
def Location.Apart (location other : Location) : Prop :=
  ¬ location <+: other ∧ ¬ other <+: location

theorem Location.Apart.of_cons {element : Element} {location other : Location}
    (hapart : Location.Apart (element :: location) (element :: other)) :
    location.Apart other := by
  constructor
  · exact fun hbegins => hapart.1 (List.cons_prefix_cons.2 ⟨rfl, hbegins⟩)
  · exact fun hbegins => hapart.2 (List.cons_prefix_cons.2 ⟨rfl, hbegins⟩)

theorem Json.overwrite_comm {location other : Location} (hapart : location.Apart other)
    (document value value' : Json) :
    (document.overwrite location value).overwrite other value' =
      (document.overwrite other value').overwrite location value := by
  induction location generalizing document other with
  | nil => exact absurd other.nil_prefix hapart.1
  | cons element location ih =>
      cases other with
      | nil => exact absurd List.nil_prefix hapart.2
      | cons element' other =>
          simp only [overwrite_cons]
          by_cases heq : element = element'
          · subst heq
            simp only [adjust_adjust_self, ih hapart.of_cons]
          · exact adjust_comm heq document _ _

end JsonSelect
