/-
Locations: the way from the root of a document to a value in it, one container
after another.  A location is resolved in a document, and a document is updated
at a location; both fail where the way breaks off.
-/
import JsonSelect.Json.Basic

namespace JsonSelect

/-- A step from a container to one of its children.  Keys are before indices, keys go
by code points. -/
inductive Element where
  | key (name : String)
  | index (position : Nat)
deriving DecidableEq, Ord

/-- Elements from the root on.  In their order a location is before every longer one
that it begins. -/
abbrev Location := List Element

namespace Json

def child? : Json → Element → Option Json
  | .object members, .key name => Members.get? members name
  | .array elements, .index position => elements[position]?
  | _, _ => none

/-- The children of a container in order, each with the element that leads to it. -/
def children : Json → List (Element × Json)
  | .object members => members.map fun member => (.key member.1, member.2)
  | .array elements =>
      elements.zipIdx.map fun (value, position) => (.index position, value)
  | _ => []

def resolve? : Json → Location → Option Json
  | value, [] => some value
  | value, element :: rest => (value.child? element).bind (resolve? · rest)

/-- Puts a new value in the place of a child that is there. -/
def setChild (value : Json) (element : Element) (child : Json) : Json :=
  match value, element with
  | .object members, .key name => .object (Members.put members name child)
  | .array elements, .index position => .array (elements.set position child)
  | value, _ => value

/-- Takes a child away, if it is there. -/
def eraseChild (value : Json) (element : Element) : Json :=
  match value, element with
  | .object members, .key name => .object (Members.erase members name)
  | .array elements, .index position => .array (elements.eraseIdx position)
  | value, _ => value

/-- Changes the value at a location, if there is one. -/
def update? (f : Json → Json) : Json → Location → Option Json
  | value, [] => some (f value)
  | value, element :: rest =>
      ((value.child? element).bind (update? f · rest)).map (value.setChild element)

/-- Writes a value at a location, if there is one to be overwritten. -/
def set? (document : Json) (location : Location) (value : Json) : Option Json :=
  document.update? (fun _ => value) location

theorem resolve?_append (value : Json) (location rest : Location) :
    value.resolve? (location ++ rest) =
      (value.resolve? location).bind (·.resolve? rest) := by
  induction location generalizing value with
  | nil => rfl
  | cons element location ih =>
    cases h : value.child? element <;> simp [resolve?, h, ih]

theorem update?_isSome (f : Json → Json) (value : Json) (location : Location) :
    (value.update? f location).isSome = (value.resolve? location).isSome := by
  induction location generalizing value with
  | nil => rfl
  | cons element location ih =>
    cases h : value.child? element with
    | none => simp [update?, resolve?, h]
    | some child => simpa [update?, resolve?, h] using ih child

end Json

namespace Location

/-- The location of the parent and the last element. -/
def splitLast? : Location → Option (Location × Element)
  | [] => none
  | [element] => some ([], element)
  | element :: next :: rest =>
      (splitLast? (next :: rest)).map fun (parent, last) => (element :: parent, last)

theorem splitLast?_append (parent : Location) (last : Element) :
    splitLast? (parent ++ [last]) = some (parent, last) := by
  induction parent with
  | nil => rfl
  | cons element parent ih =>
    cases parent with
    | nil => rfl
    | cons next rest => simpa [splitLast?] using ih

end Location
end JsonSelect
