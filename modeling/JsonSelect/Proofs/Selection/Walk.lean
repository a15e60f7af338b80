/-
The walk with its stack against the recursive reference.  A pending node stands
for the nodes that its moves still lead to; the stack stands for those of its
entries, one after another, and no move changes what it stands for.
-/
import Mathlib
import JsonSelect.Proofs.Selection.Children

namespace JsonSelect

/-- The match at a node: where it is, from where the walk began, and what it is. -/
def Node.found (node : Node) : Match :=
  ⟨node.location, node.value⟩

/-- The node of a match below a value that some elements lead back from. -/
def Match.node (trail : List Element) (found : Match) : Node :=
  ⟨found.value, found.location.reverse ++ trail⟩

theorem Match.found_node (found : Match) : (found.node []).found = found := by
  simp [Match.node, Node.found, Node.location]

theorem Match.node_under (trail : List Element) (element : Element) (found : Match) :
    (found.under element).node trail = found.node (element :: trail) := by
  simp [Match.node, Match.under]

/-- The nodes that some moves lead to, in document order. -/
def Move.nodes : List Move → Node → List Node
  | [], node => [node]
  | .select children :: rest, node =>
      (children node.value).flatMap fun child => Move.nodes rest (node.child child)
  | .descend :: rest, node =>
      Move.nodes rest node ++ node.value.children.attach.flatMap fun ⟨child, _⟩ =>
        Move.nodes (.descend :: rest) (node.child child)
termination_by moves node => (moves.length, sizeOf node.value)
decreasing_by
  · exact Prod.Lex.left _ _ (Nat.lt_succ_self _)
  · exact Prod.Lex.left _ _ (Nat.lt_succ_self _)
  · rename_i hchild
    exact Prod.Lex.right _ (Json.sizeOf_lt_of_mem_children hchild)

theorem Move.nodes_nil (node : Node) : Move.nodes [] node = [node] := by
  rw [Move.nodes]

/-- The nodes that a pending node stands for. -/
def Pending.nodes (pending : Pending) : List Node :=
  Move.nodes pending.moves pending.node

/-- A move keeps the nodes that are stood for, and their order. -/
theorem Pending.flatMap_nodes_next (node : Node) (rest : List Move) (move : Move) :
    (Pending.next node rest move).flatMap Pending.nodes =
      Move.nodes (move :: rest) node := by
  cases move with
  | select children =>
      rw [Move.nodes, Pending.next, List.flatMap_map]
      rfl
  | descend =>
      rw [Move.nodes, Pending.next, List.flatMap_cons, List.flatMap_map]
      conv_lhs => rw [← List.attach_map_subtype_val node.value.children, List.flatMap_map]
      rfl

/-- Hands nodes over one after another, until one stops it. -/
def visit {σ : Type} (emit : σ → Node → ForInStep σ) : List Node → σ → σ
  | [], state => state
  | node :: rest, state =>
      match emit state node with
      | .done state => state
      | .yield state => visit emit rest state

theorem visit_yield {σ : Type} (f : σ → Node → σ) (nodes : List Node) (state : σ) :
    visit (fun state node => .yield (f state node)) nodes state =
      nodes.foldl f state := by
  induction nodes generalizing state with
  | nil => rfl
  | cons node rest ih => exact ih (f state node)

/-- The walk visits what its stack stands for. -/
theorem walk_eq_visit {σ : Type} (emit : σ → Node → ForInStep σ) (stack : List Pending)
    (state : σ) :
    walk emit stack state = visit emit (stack.flatMap Pending.nodes) state := by
  induction stack, state using walk.induct emit with
  | case1 state =>
      rw [walk]
      rfl
  | case2 state node stack state' hdone =>
      rw [walk, hdone, List.flatMap_cons, Pending.nodes, Move.nodes_nil,
        List.singleton_append, visit, hdone]
  | case3 state node stack state' hyield ih =>
      rw [walk, hyield, List.flatMap_cons, Pending.nodes, Move.nodes_nil,
        List.singleton_append, visit, hyield]
      exact ih
  | case4 state node move rest stack ih =>
      rw [walk, ih, List.flatMap_append, List.flatMap_cons, Pending.flatMap_nodes_next]
      rfl

theorem walkFrom_eq_visit {σ : Type} (emit : σ → Node → ForInStep σ) (moves : List Move)
    (start : Json) (state : σ) :
    walkFrom emit moves start state =
      visit emit (Move.nodes moves ⟨start, []⟩) state := by
  rw [walkFrom, walk_eq_visit, List.flatMap_singleton]
  rfl

/-- The nodes of a path's moves are its matches, each with its location turned
into a trail. -/
theorem nodes_moves_eq_located (root : Json) (steps : List Step) (node : Node) :
    Move.nodes (Step.moves root steps) node =
      (located root steps node.value).map (Match.node node.trail) := by
  induction steps generalizing node with
  | nil =>
      rw [Step.moves, Move.nodes_nil, located_nil]
      rfl
  | cons step rest ih =>
      rw [Step.moves]
      by_cases hstep : step = .descent
      · subst hstep
        obtain ⟨value, trail⟩ := node
        induction value using Json.childInduction generalizing trail with
        | step value ihChildren =>
            rw [located_descent, List.map_append, List.map_flatMap,
              ← Pending.flatMap_nodes_next]
            simp only [Step.move, Pending.next, List.flatMap_cons, List.flatMap_map]
            congr 1
            · exact ih ⟨value, trail⟩
            · apply List.flatMap_congr
              intro child hchild
              rw [List.map_map]
              exact (ihChildren child hchild (child.1 :: trail)).trans
                (List.map_congr_left fun found _ =>
                  (Match.node_under trail child.1 found).symm)
      · rw [Step.move_eq_select root hstep, located_cons root hstep, List.map_flatMap,
          Move.nodes]
        apply List.flatMap_congr
        intro child _
        rw [ih, List.map_map]
        exact List.map_congr_left fun found _ =>
          (Match.node_under node.trail child.1 found).symm

theorem nodes_moves_start (root start : Json) (steps : List Step) :
    Move.nodes (Step.moves root steps) ⟨start, []⟩ =
      (located root steps start).map (Match.node []) :=
  nodes_moves_eq_located root steps ⟨start, []⟩

/-- A walk that is never stopped ends, and hands over the matches of the recursive
reference, each once for every time that the reference lists it, in its order. -/
theorem walkFrom_emits_located (root start : Json) (steps : List Step) :
    ∃ nodes : List Node,
      nodes.map Node.found = located root steps start ∧
      ∀ {σ : Type} (f : σ → Node → σ) (state : σ),
        walkFrom (fun state node => .yield (f state node))
          (Step.moves root steps) start state = nodes.foldl f state := by
  refine ⟨(located root steps start).map (Match.node []), ?_, ?_⟩
  · rw [List.map_map]
    conv_rhs => rw [← List.map_id (located root steps start)]
    exact List.map_congr_left fun found _ => Match.found_node found
  · intro σ f state
    rw [walkFrom_eq_visit, visit_yield, nodes_moves_start]

end JsonSelect
