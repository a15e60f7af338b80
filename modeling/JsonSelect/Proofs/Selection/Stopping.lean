/-
Walks that are stopped.  Whatever a visitor does, it is handed the shortest run
of nodes from the first on at which it breaks, and all of them if it never does.
So every answer that needs no more than the first matches is read off the list
of all of them, and a walk that keeps no trails finds the same values.
-/
import Mathlib
import JsonSelect.Proofs.Selection.Predicates

namespace JsonSelect

variable {σ : Type}

/-! What a visitor is handed -/

/-- Hands nodes to a visitor one after another; either it breaks at one of them, or it
is left ready for more. -/
def feed (emit : σ → Node → ForInStep σ) : List Node → σ → ForInStep σ
  | [], state => .yield state
  | node :: rest, state =>
      match emit state node with
      | .done state => .done state
      | .yield state => feed emit rest state

/-- The visitor breaks at one of the nodes. -/
def BreaksOn (emit : σ → Node → ForInStep σ) (state : σ) (nodes : List Node) : Prop :=
  ∃ last, feed emit nodes state = .done last

/-- The nodes that are handed over out of all of them: the shortest beginning on which
the visitor breaks, or all if it breaks on none. -/
structure HandedOver (emit : σ → Node → ForInStep σ) (state : σ)
    (nodes given : List Node) : Prop where
  beginning : given <+: nodes
  breaks : given ≠ nodes → BreaksOn emit state given
  shortest : ∀ shorter, shorter <+: given → shorter ≠ given → ¬BreaksOn emit state shorter

/-- The same visitor, which notes what it is handed. -/
def noting (emit : σ → Node → ForInStep σ) (noted : σ × List Node) (node : Node) :
    ForInStep (σ × List Node) :=
  match emit noted.1 node with
  | .done state => .done (state, noted.2 ++ [node])
  | .yield state => .yield (state, noted.2 ++ [node])

variable {emit : σ → Node → ForInStep σ}

theorem not_breaksOn_nil (state : σ) : ¬BreaksOn emit state [] := by
  rintro ⟨last, hlast⟩
  cases hlast

theorem breaksOn_cons_of_done {state last : σ} {node : Node}
    (hdone : emit state node = .done last) (rest : List Node) :
    BreaksOn emit state (node :: rest) :=
  ⟨last, by rw [feed, hdone]⟩

theorem breaksOn_cons_of_yield {state next : σ} {node : Node}
    (hyield : emit state node = .yield next) (rest : List Node) :
    BreaksOn emit state (node :: rest) ↔ BreaksOn emit next rest := by
  rw [BreaksOn, BreaksOn, feed, hyield]

theorem handedOver_nil (state : σ) : HandedOver emit state [] [] where
  beginning := List.prefix_rfl
  breaks := fun hne => absurd rfl hne
  shortest := fun _ hshorter hne => absurd (List.prefix_nil.1 hshorter) hne

/-- A visitor that breaks at the first node is handed no other. -/
theorem handedOver_of_done {state last : σ} {node : Node}
    (hdone : emit state node = .done last) (rest : List Node) :
    HandedOver emit state (node :: rest) [node] where
  beginning := ⟨rest, rfl⟩
  breaks := fun _ => breaksOn_cons_of_done hdone []
  shortest := by
    intro shorter hshorter hne
    rcases List.prefix_cons_iff.1 hshorter with rfl | ⟨front, rfl, hfront⟩
    · exact not_breaksOn_nil state
    · rw [List.prefix_nil.1 hfront] at hne
      exact absurd rfl hne

/-- A visitor that goes on after the first node is handed what it would be from there. -/
theorem HandedOver.cons_of_yield {state next : σ} {node : Node}
    (hyield : emit state node = .yield next) {rest given : List Node}
    (hgiven : HandedOver emit next rest given) :
    HandedOver emit state (node :: rest) (node :: given) where
  beginning := List.cons_prefix_cons.2 ⟨rfl, hgiven.beginning⟩
  breaks := by
    intro hne
    rw [breaksOn_cons_of_yield hyield]
    exact hgiven.breaks fun heq => hne (congrArg (node :: ·) heq)
  shortest := by
    intro shorter hshorter hne
    rcases List.prefix_cons_iff.1 hshorter with rfl | ⟨front, rfl, hfront⟩
    · exact not_breaksOn_nil state
    · rw [breaksOn_cons_of_yield hyield]
      exact hgiven.shortest front hfront fun heq => hne (congrArg (node :: ·) heq)

/-- Nodes that are handed over are handed over in order and without a gap, and no more
of them than it takes to break. -/
theorem exists_handedOver (emit : σ → Node → ForInStep σ) (nodes : List Node) (state : σ)
    (noted : List Node) : ∃ given, HandedOver emit state nodes given ∧
      visit (noting emit) nodes (state, noted) =
        (visit emit nodes state, noted ++ given) := by
  induction nodes generalizing state noted with
  | nil => exact ⟨[], handedOver_nil state, by rw [visit, visit, List.append_nil]⟩
  | cons node rest ih =>
      cases hemit : emit state node with
      | done last =>
          refine ⟨[node], handedOver_of_done hemit rest, ?_⟩
          rw [visit, visit, noting, hemit]
      | yield next =>
          obtain ⟨given, hgiven, hvisit⟩ := ih next (noted ++ [node])
          refine ⟨node :: given, hgiven.cons_of_yield hemit, ?_⟩
          rw [visit, visit, noting, hemit]
          simpa using hvisit

/-! Walks without trails -/

/-- A value and the moves that are to be made from it, with nothing of the way to it. -/
structure Unlocated where
  value : Json
  moves : List Move

def Pending.unlocated (pending : Pending) : Unlocated :=
  ⟨pending.node.value, pending.moves⟩

namespace Unlocated

def next (value : Json) (rest : List Move) : Move → List Unlocated
  | .select children => (children value).map fun child => ⟨child.2, rest⟩
  | .descend =>
      ⟨value, rest⟩ :: value.children.map fun child => ⟨child.2, .descend :: rest⟩

def totalWork (stack : List Unlocated) : Nat :=
  sumOf (fun pending => Pending.work pending.moves pending.value) stack

end Unlocated

theorem Pending.map_unlocated_next (node : Node) (rest : List Move) (move : Move) :
    (Pending.next node rest move).map Pending.unlocated =
      Unlocated.next node.value rest move := by
  cases move with
  | select children =>
      rw [Pending.next, Unlocated.next, List.map_map]
      rfl
  | descend =>
      rw [Pending.next, Unlocated.next, List.map_cons, List.map_map]
      rfl

theorem Unlocated.totalWork_next_lt (value : Json) (rest : List Move) (move : Move) :
    totalWork (next value rest move) < Pending.work (move :: rest) value := by
  have hlt := Pending.totalWork_next_lt ⟨value, []⟩ rest move
  have hmap := Pending.map_unlocated_next ⟨value, []⟩ rest move
  rw [← hmap, totalWork, sumOf_map]
  exact hlt

/-- The walk that records no locations. -/
def walkUnlocated (emit : σ → Json → ForInStep σ) : List Unlocated → σ → σ
  | [], state => state
  | ⟨value, []⟩ :: stack, state =>
      match emit state value with
      | .done state => state
      | .yield state => walkUnlocated emit stack state
  | ⟨value, move :: rest⟩ :: stack, state =>
      walkUnlocated emit (Unlocated.next value rest move ++ stack) state
termination_by stack => Unlocated.totalWork stack
decreasing_by
  · simp [Unlocated.totalWork, sumOf, Pending.work]
  · rw [Unlocated.totalWork, sumOf_append]
    exact Nat.add_lt_add_right (Unlocated.totalWork_next_lt value rest move) _

/-- A visitor that looks at values only is handed the same values whether or not the
walk records where they are. -/
theorem walk_eq_walkUnlocated (emit : σ → Json → ForInStep σ) (stack : List Pending)
    (state : σ) :
    walk (fun state node => emit state node.value) stack state =
      walkUnlocated emit (stack.map Pending.unlocated) state := by
  induction stack, state using walk.induct (fun state node => emit state node.value) with
  | case1 state => rw [walk, List.map_nil, walkUnlocated]
  | case2 state node stack last hdone =>
      rw [walk, hdone, List.map_cons, Pending.unlocated, walkUnlocated, hdone]
  | case3 state node stack next hyield ih =>
      rw [walk, hyield, List.map_cons, Pending.unlocated, walkUnlocated, hyield]
      exact ih
  | case4 state node move rest stack ih =>
      rw [walk, ih, List.map_append, Pending.map_unlocated_next, List.map_cons,
        Pending.unlocated, walkUnlocated]

/-! Queries -/

theorem Path.queryFirst?_eq_head? (path : Path) (document : Json) :
    path.queryFirst? document = (path.query document).head? := by
  rw [queryFirst?, walkFrom_eq_visit, moves, query_eq_map_value, queryLocated_eq_located,
    nodes_moves_start]
  cases located document path.steps document with
  | nil => rfl
  | cons found rest => rfl

theorem Path.hasMatch_iff_query_ne_nil (path : Path) (document : Json) :
    path.hasMatch document = true ↔ path.query document ≠ [] := by
  rw [hasMatch_iff, query_eq_map_value, ne_eq, ne_eq, List.map_eq_nil_iff]

theorem map_found_nodes (root start : Json) (steps : List Step) :
    (Move.nodes (Step.moves root steps) ⟨start, []⟩).map Node.found =
      located root steps start := by
  rw [nodes_moves_start, List.map_map]
  exact (List.map_congr_left fun found _ => Match.found_node found).trans (List.map_id _)

/-- Out of all nodes that some steps lead to, in the order of the reference, a visitor
is handed the shortest beginning on which it breaks, and what is recorded of locations
makes no difference to the values.  The queries that stop early or record no locations,
and the operands of filters, therefore answer what the complete lists tell. -/
theorem walkFrom_hands_over (root start : Json) (steps : List Step) :
    (∃ nodes : List Node,
      nodes.map Node.found = located root steps start ∧
      ∀ {σ : Type} (emit : σ → Node → ForInStep σ) (state : σ),
        ∃ given, HandedOver emit state nodes given ∧
          walkFrom (noting emit) (Step.moves root steps) start (state, []) =
            (walkFrom emit (Step.moves root steps) start state, given)) ∧
    (∀ {σ : Type} (emit : σ → Json → ForInStep σ) (state : σ),
      walkFrom (fun state node => emit state node.value)
          (Step.moves root steps) start state =
        walkUnlocated emit [⟨start, Step.moves root steps⟩] state) ∧
    (∀ (path : Path) (document : Json),
      path.query document = (path.queryLocated document).map Match.value ∧
        path.query document =
          (walkUnlocated (fun values value => .yield (value :: values))
            [⟨document, path.moves document⟩] []).reverse ∧
        path.queryFirst? document = (path.query document).head? ∧
        (path.hasMatch document = true ↔ path.query document ≠ [])) ∧
    (∀ (anchor : Anchor) (current value : Json),
      onlyValue? (Step.moves root steps) (anchor.start root current) = some value ↔
        (Operand.path anchor steps).values root current = [value]) ∧
    ∀ (operand : Operand) (current : Json) (scalar : Scalar),
      operand.scalar? root current = some scalar ↔
        operand.values root current = [.ofScalar scalar] := by
  refine ⟨?_, ?_, ?_, ?_, ?_⟩
  · refine ⟨Move.nodes (Step.moves root steps) ⟨start, []⟩,
      map_found_nodes root start steps, ?_⟩
    intro σ emit state
    rw [walkFrom_eq_visit, walkFrom_eq_visit]
    exact exists_handedOver emit _ state []
  · intro σ emit state
    exact walk_eq_walkUnlocated emit _ state
  · intro path document
    refine ⟨path.query_eq_map_value document, congrArg List.reverse ?_,
      path.queryFirst?_eq_head? document, path.hasMatch_iff_query_ne_nil document⟩
    exact walk_eq_walkUnlocated (fun values value => .yield (value :: values)) _ []
  · intro anchor current value
    exact onlyValue?_moves_eq_some_iff root (anchor.start root current) value steps
  · intro operand current scalar
    exact Operand.scalar?_eq_some_iff

end JsonSelect
