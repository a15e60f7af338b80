/-
Queries in terms of the recursive reference.  A query without end lists the
matches of the reference.  A walk that is stopped early is told from the whole
list too: whether there is any match, and which one is the only one.
-/
import Mathlib
import JsonSelect.Proofs.Selection.Walk

namespace JsonSelect

/-- The values that some steps lead to from a value on. -/
def Step.values (root : Json) (steps : List Step) (start : Json) : List Json :=
  (located root steps start).map Match.value

theorem map_value_nodes (root start : Json) (steps : List Step) :
    (Move.nodes (Step.moves root steps) ⟨start, []⟩).map Node.value =
      Step.values root steps start := by
  rw [nodes_moves_start, List.map_map]
  rfl

/-- A walk that stops at once tells whether there is a match. -/
theorem reaches_moves_iff (root start : Json) (steps : List Step) :
    reaches (Step.moves root steps) start = true ↔ Step.values root steps start ≠ [] := by
  rw [reaches, walkFrom_eq_visit, ← map_value_nodes]
  cases Move.nodes (Step.moves root steps) ⟨start, []⟩ with
  | nil => simp [visit]
  | cons node rest => simp [visit]

/-- A walk that stops at the second match tells which match is the only one. -/
theorem onlyValue?_moves_eq_some_iff (root start value : Json) (steps : List Step) :
    onlyValue? (Step.moves root steps) start = some value ↔
      Step.values root steps start = [value] := by
  rw [onlyValue?, walkFrom_eq_visit, ← map_value_nodes]
  cases Move.nodes (Step.moves root steps) ⟨start, []⟩ with
  | nil => simp [visit]
  | cons node rest =>
      cases rest with
      | nil => simp [visit]
      | cons next rest => simp [visit]

namespace Path

/-- What is gathered from the nodes of a path is what its matches give. -/
theorem reverse_fold_cons {α : Type} (path : Path) (document : Json) (gather : Node → α) :
    (path.fold document (fun gathered node => gather node :: gathered) []).reverse =
      (located document path.steps document).map fun found => gather (found.node []) := by
  rw [fold, moves, walkFrom_eq_visit, visit_yield, nodes_moves_start,
    List.foldl_flip_cons_eq_append, List.append_nil, List.reverse_reverse, List.map_map]
  rfl

theorem queryLocated_eq_located (path : Path) (document : Json) :
    path.queryLocated document = located document path.steps document := by
  have hnodes := path.reverse_fold_cons document Node.found
  rw [funext Match.found_node, List.map_id'] at hnodes
  exact hnodes

theorem query_eq_map_value (path : Path) (document : Json) :
    path.query document = (path.queryLocated document).map Match.value := by
  rw [queryLocated_eq_located]
  exact path.reverse_fold_cons document Node.value

theorem hasMatch_iff (path : Path) (document : Json) :
    path.hasMatch document = true ↔ path.queryLocated document ≠ [] := by
  rw [hasMatch, queryFirst?, walkFrom_eq_visit, queryLocated_eq_located, moves,
    nodes_moves_start]
  cases located document path.steps document with
  | nil => simp [visit]
  | cons found rest => simp [visit]

end Path
end JsonSelect
