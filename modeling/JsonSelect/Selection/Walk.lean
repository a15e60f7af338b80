/-
The walk through a document that finds what a path selects.  What a step does
is a move: it selects children of a value, or descends to the value and
everything below it.  Pending work waits on a stack, the next in front, so that
matches come in document order and the walk can stop at any of them.
-/
import JsonSelect.Location.Basic
import JsonSelect.Sum

namespace JsonSelect

inductive Move where
  | select (children : Json → List (Element × Json))
  | descend

/-- A value in a document, and the elements that lead back from it to where
the walk began. -/
structure Node where
  value : Json
  trail : List Element

namespace Node

def location (node : Node) : Location :=
  node.trail.reverse

def child (node : Node) (child : Element × Json) : Node :=
  ⟨child.2, child.1 :: node.trail⟩

end Node

/-- A node and the moves that are to be made from it. -/
structure Pending where
  node : Node
  moves : List Move

namespace Pending

/-- What is pending after a move.  A descent makes the other moves from the node itself
first, and then descends from each child. -/
def next (node : Node) (rest : List Move) : Move → List Pending
  | .select children => (children node.value).map fun child => ⟨node.child child, rest⟩
  | .descend =>
      ⟨node, rest⟩ ::
        node.value.children.map fun child => ⟨node.child child, .descend :: rest⟩

end Pending

/-! How much work is pending.  Each move costs one and leaves less work than it found. -/

namespace Json

mutual

/-- One for each value at or below the given one, and its weight. -/
def total (weight : Json → Nat) : Json → Nat
  | .array elements => 1 + weight (.array elements) + totalElements weight elements
  | .object members => 1 + weight (.object members) + totalMembers weight members
  | value => 1 + weight value

def totalElements (weight : Json → Nat) : List Json → Nat
  | [] => 0
  | value :: rest => value.total weight + totalElements weight rest

def totalMembers (weight : Json → Nat) : List (String × Json) → Nat
  | [] => 0
  | member :: rest => member.2.total weight + totalMembers weight rest

end

theorem totalElements_eq (weight : Json → Nat) (elements : List Json) :
    totalElements weight elements = sumOf (total weight) elements := by
  induction elements with
  | nil => rfl
  | cons value rest ih => simp [totalElements, sumOf, ih]

theorem totalMembers_eq (weight : Json → Nat) (members : List (String × Json)) :
    totalMembers weight members =
      sumOf (fun member => member.2.total weight) members := by
  induction members with
  | nil => rfl
  | cons member rest ih => simp [totalMembers, sumOf, ih]

theorem total_eq (weight : Json → Nat) (value : Json) :
    value.total weight =
      1 + weight value + sumOf (fun child => child.2.total weight) value.children := by
  cases value with
  | array elements =>
    have h : sumOf (fun child => child.1.total weight) elements.zipIdx =
        sumOf (total weight) elements := by
      rw [← sumOf_map (total weight) Prod.fst, List.zipIdx_map_fst]
    simp [total, children, totalElements_eq, sumOf_map, h]
  | object members => simp [total, children, totalMembers_eq, sumOf_map]
  | _ => simp [total, children, sumOf]

end Json

namespace Pending

def work : List Move → Json → Nat
  | [], _ => 1
  | .select children :: rest, value =>
      1 + sumOf (fun child => work rest child.2) (children value)
  | .descend :: rest, value => value.total (work rest)

def totalWork (stack : List Pending) : Nat :=
  sumOf (fun pending => work pending.moves pending.node.value) stack

theorem totalWork_cons (pending : Pending) (stack : List Pending) :
    totalWork (pending :: stack) =
      work pending.moves pending.node.value + totalWork stack := rfl

theorem totalWork_append (stack stack' : List Pending) :
    totalWork (stack ++ stack') = totalWork stack + totalWork stack' :=
  sumOf_append _ stack stack'

theorem totalWork_next_lt (node : Node) (rest : List Move) (move : Move) :
    totalWork (next node rest move) < work (move :: rest) node.value := by
  cases move with
  | select children =>
    simp only [totalWork, next, work, sumOf_map, Node.child]
    omega
  | descend =>
    simp only [totalWork, next, work, sumOf, sumOf_map, Node.child]
    rw [Json.total_eq (work rest) node.value]
    omega

end Pending

/-- Makes the pending moves and hands every node at which none is left to `emit`, which
may stop the walk. -/
def walk {σ : Type} (emit : σ → Node → ForInStep σ) : List Pending → σ → σ
  | [], state => state
  | ⟨node, []⟩ :: stack, state =>
      match emit state node with
      | .done state => state
      | .yield state => walk emit stack state
  | ⟨node, move :: rest⟩ :: stack, state =>
      walk emit (Pending.next node rest move ++ stack) state
termination_by stack => Pending.totalWork stack
decreasing_by
  · simp [Pending.totalWork_cons, Pending.work]
  · rw [Pending.totalWork_append, Pending.totalWork_cons]
    exact Nat.add_lt_add_right (Pending.totalWork_next_lt node rest move) _

/-- The walk of some moves from one value. -/
def walkFrom {σ : Type} (emit : σ → Node → ForInStep σ) (moves : List Move) (start : Json)
    (state : σ) : σ :=
  walk emit [⟨⟨start, []⟩, moves⟩] state

end JsonSelect
