/-
What steps and predicates mean in a document with a given root.  A step means a
move; a predicate holds for a value or not.  The operands of a predicate are
walked to only as far as its answer needs.
-/
import JsonSelect.Selection.Position
import JsonSelect.Selection.Walk

namespace JsonSelect

namespace Json

/-- The child of an element, if there is one, with its element. -/
def childAt (value : Json) (element : Element) : List (Element × Json) :=
  ((value.child? element).map (element, ·)).toList

/-- The element at a position that may count from the end. -/
def childAtPosition (value : Json) (position : Int64) : List (Element × Json) :=
  match value with
  | .array elements =>
      match placeOfIndex? position elements.length with
      | some place => value.childAt (.index place)
      | none => []
  | _ => []

def childrenOfSlice (value : Json) (slice : Slice) : List (Element × Json) :=
  match value with
  | .array elements =>
      (slice.places elements.length).flatMap fun place => value.childAt (.index place)
  | _ => []

def childOfItem (value : Json) : Item → List (Element × Json)
  | .key name => value.childAt (.key name)
  | .index position => value.childAtPosition position

end Json

/-- Whether the moves lead to any node at all. -/
def reaches (moves : List Move) (start : Json) : Bool :=
  walkFrom (fun _ _ => .done true) moves start false

/-- The only value to which the moves lead; none if there are more.  The walk
stops at a second. -/
def onlyValue? (moves : List Move) (start : Json) : Option Json :=
  let keep (found : List Json) (node : Node) : ForInStep (List Json) :=
    if found.isEmpty then .yield [node.value] else .done (node.value :: found)
  match walkFrom keep moves start [] with
  | [value] => some value
  | _ => none

def Anchor.start (anchor : Anchor) (root current : Json) : Json :=
  match anchor with
  | .root => root
  | .current => current

mutual

def Step.move (root : Json) : Step → Move
  | .key name => .select (Json.childAt · (.key name))
  | .index position => .select (Json.childAtPosition · position)
  | .wildcard => .select Json.children
  | .descent => .descend
  | .slice slice => .select (Json.childrenOfSlice · slice)
  | .union items => .select fun value => items.flatMap value.childOfItem
  | .filter predicate => .select fun value =>
      value.children.filter fun child => predicate.holds root child.2

def Step.moves (root : Json) : List Step → List Move
  | [] => []
  | step :: rest => step.move root :: Step.moves root rest

/-- Two operands compare if each leads to one scalar and both are of one kind. -/
def Predicate.holds (root : Json) : Predicate → Json → Bool
  | .compare comparison left right, current =>
      match left.scalar? root current, right.scalar? root current with
      | some a, some b => (a.cmp? b).any comparison.holds
      | _, _ => false
  | .matching operand pattern, current =>
      match operand.scalar? root current with
      | some (.string text) => pattern.occursIn text
      | _ => false
  | .bare operand, current => operand.isPresent root current
  | .and left right, current => left.holds root current && right.holds root current
  | .or left right, current => left.holds root current || right.holds root current
  | .not inner, current => !inner.holds root current

/-- The one scalar that the operand stands for. -/
def Operand.scalar? (root : Json) : Operand → Json → Option Scalar
  | .literal value, _ => some value
  | .path anchor steps, current =>
      (onlyValue? (Step.moves root steps) (anchor.start root current)).bind Json.scalar?

/-- What a bare operand says: a path that it leads somewhere, a literal its own truth. -/
def Operand.isPresent (root : Json) : Operand → Json → Bool
  | .literal value, _ => value.isTruthy
  | .path anchor steps, current =>
      reaches (Step.moves root steps) (anchor.start root current)

end

end JsonSelect
