/-
What a list of steps selects, said by recursion on the steps and the document,
with no stack and no trail.  Positions are said by integer arithmetic, and the
children that a step selects by what is true of their elements.
-/
import Mathlib
import JsonSelect.Proofs.Location.Children
import JsonSelect.Selection.Query

namespace JsonSelect

/-- The place that a position names among `size` elements; it may lie outside of them. -/
def namedPlace (position : Int64) (size : Nat) : Int :=
  if position.toInt < 0 then position.toInt + size else position.toInt

/-- The named place, or the end of the array that it lies beyond. -/
def clampedPlace (position : Int64) (size : Nat) : Int :=
  max 0 (min (namedPlace position size) size)

/-- Whether a slice covers a place: between its bounds, and whole steps away
from the first. -/
def Slice.covers (slice : Slice) (size place : Nat) : Bool :=
  let first := slice.start.elim 0 (clampedPlace · size)
  let last := slice.stop.elim (size : Int) (clampedPlace · size)
  decide (first ≤ place ∧ place < last ∧ slice.step.toInt ∣ place - first)

/-- Whether a slice of a container of `size` children covers the child of an element. -/
def Slice.coversElement (slice : Slice) (size : Nat) : Element → Bool
  | .key _ => false
  | .index place => slice.covers size place

/-- Whether an item names the child of an element in a container of `size` children. -/
def Item.names (size : Nat) : Item → Element → Bool
  | .key name, .key name' => name' = name
  | .index position, .index place => (place : Int) = namedPlace position size
  | _, _ => false

/-- The child that an item names, if there is one. -/
def Item.selected (value : Json) (item : Item) : List (Element × Json) :=
  (value.children.find? fun child => item.names value.children.length child.1).toList

/-- The children that a step selects, in order.  A descent is no selection of children. -/
def Step.selected (root value : Json) : Step → List (Element × Json)
  | .key name => (Item.key name).selected value
  | .index position => (Item.index position).selected value
  | .wildcard => value.children
  | .slice range =>
      value.children.filter fun child => range.coversElement value.children.length child.1
  | .union items => items.flatMap (Item.selected value)
  | .filter predicate => value.children.filter fun child => predicate.holds root child.2
  | .descent => []

/-- A match below a child, seen from the container that the child is in. -/
def Match.under (element : Element) (found : Match) : Match :=
  ⟨element :: found.location, found.value⟩

/-- The matches of some steps from a value on, in a document with the given root. -/
def located (root : Json) : List Step → Json → List Match
  | [], value => [⟨[], value⟩]
  | .descent :: rest, value =>
      located root rest value ++ value.children.attach.flatMap fun ⟨child, _⟩ =>
        (located root (.descent :: rest) child.2).map (Match.under child.1)
  | step :: rest, value =>
      (step.selected root value).flatMap fun child =>
        (located root rest child.2).map (Match.under child.1)
termination_by steps value => (steps.length, sizeOf value)
decreasing_by
  · exact Prod.Lex.left _ _ (Nat.lt_succ_self _)
  · rename_i hchild
    exact Prod.Lex.right _ (Json.sizeOf_lt_of_mem_children hchild)
  · exact Prod.Lex.left _ _ (Nat.lt_succ_self _)

theorem located_nil (root value : Json) : located root [] value = [⟨[], value⟩] := by
  rw [located]

/-- A descent finds what the other steps find from the value itself, and then what it
finds from its children. -/
theorem located_descent (root : Json) (rest : List Step) (value : Json) :
    located root (.descent :: rest) value =
      located root rest value ++ value.children.flatMap fun child =>
        (located root (.descent :: rest) child.2).map (Match.under child.1) := by
  rw [located]
  conv_rhs => rw [← List.attach_map_subtype_val value.children, List.flatMap_map]

theorem located_cons (root : Json) {step : Step} (hstep : step ≠ .descent)
    (rest : List Step) (value : Json) :
    located root (step :: rest) value =
      (step.selected root value).flatMap fun child =>
        (located root rest child.2).map (Match.under child.1) := by
  rw [located]
  exact hstep

theorem located_sole (root : Json) {step : Step} (hstep : step ≠ .descent)
    (value : Json) : located root [step] value =
      (step.selected root value).map fun child => ⟨[child.1], child.2⟩ := by
  rw [located_cons root hstep]
  simp only [located_nil]
  exact List.map_eq_flatMap.symm

end JsonSelect
