/-
Steps one part after another.  What some steps select and what further steps
select from there is what all of them select together, in the same order, and
each location is the outer one with the inner one behind it.
-/
import Mathlib
import JsonSelect.Proofs.Path.Grammar
import JsonSelect.Proofs.Selection.Queries

namespace JsonSelect

open Path.Grammar (soleStep)

/-- A match from a value on, seen from where the value is at the given location. -/
def Match.below (location : Location) (found : Match) : Match :=
  ⟨location ++ found.location, found.value⟩

theorem Match.below_nil (found : Match) : found.below [] = found := rfl

/-- What is found from each of some matches on, seen from the container above them. -/
theorem Match.map_under_flatMap (element : Element) (matched : List Match)
    (found : Json → List Match) :
    (matched.flatMap fun outer => (found outer.value).map (below outer.location)).map
        (under element) =
      (matched.map (under element)).flatMap fun outer =>
        (found outer.value).map (below outer.location) := by
  rw [List.map_flatMap, List.flatMap_map]
  apply List.flatMap_congr
  intro outer _
  rw [List.map_map]
  rfl

namespace Step

/-- The matches of some steps from a value on, in a document with the given root, as a
walk comes upon them. -/
def matchesFrom (root : Json) (steps : List Step) (start : Json) : List Match :=
  (walkFrom (fun found node => .yield (node.found :: found))
    (Step.moves root steps) start []).reverse

theorem matchesFrom_eq_located (root : Json) (steps : List Step) (start : Json) :
    matchesFrom root steps start = located root steps start := by
  rw [matchesFrom, walkFrom_eq_visit, visit_yield, nodes_moves_start,
    List.foldl_flip_cons_eq_append, List.append_nil, List.reverse_reverse, List.map_map]
  exact (List.map_congr_left fun found _ => Match.found_node found).trans (List.map_id _)

end Step

/-- A query is the walk from the root. -/
theorem Path.queryLocated_eq_matchesFrom (path : Path) (document : Json) :
    path.queryLocated document = Step.matchesFrom document path.steps document := rfl

theorem located_append (root : Json) (front back : List Step) (value : Json) :
    located root (front ++ back) value =
      (located root front value).flatMap fun outer =>
        (located root back outer.value).map (Match.below outer.location) := by
  induction front generalizing value with
  | nil =>
      rw [List.nil_append, located_nil, List.flatMap_singleton, funext Match.below_nil,
        List.map_id']
  | cons step front ih =>
      rw [List.cons_append]
      by_cases hstep : step = .descent
      · subst hstep
        induction value using Json.childInduction with
        | step value ihChildren =>
            rw [located_descent, located_descent, List.flatMap_append, ← ih value,
              List.flatMap_assoc]
            congr 1
            apply List.flatMap_congr
            intro child hchild
            rw [← Match.map_under_flatMap, ← ihChildren child hchild]
      · rw [located_cons root hstep, located_cons root hstep, List.flatMap_assoc]
        apply List.flatMap_congr
        intro child _
        rw [← Match.map_under_flatMap, ← ih child.2]

/-! Unions -/

theorem Item.selected_soleStep (root value : Json) (item : Item) :
    (soleStep item).selected root value = item.selected value := by
  cases item <;> rfl

theorem Item.soleStep_ne_descent (item : Item) : soleStep item ≠ .descent := by
  cases item <;> nofun

/-- A union leads where its items lead as steps of their own, one item after another. -/
theorem located_union (root : Json) (items : List Item) (rest : List Step)
    (value : Json) : located root (.union items :: rest) value =
      items.flatMap fun item => located root (soleStep item :: rest) value := by
  have hunion : Step.union items ≠ .descent := nofun
  rw [located_cons root hunion, Step.selected, List.flatMap_assoc]
  apply List.flatMap_congr
  intro item _
  rw [located_cons root item.soleStep_ne_descent, item.selected_soleStep]

namespace Step

/-- A walk finds the matches of the recursive reference.  What two lists of steps select
together is, match by match of the first, what the second selects from there, with the
location of the outer match put in front.  A union between them contributes at each
match what its items contribute alone, item by item. -/
theorem matchesFrom_append (root : Json) (front back : List Step) (start : Json) :
    (∀ (steps : List Step) (value : Json),
      matchesFrom root steps value = located root steps value) ∧
    matchesFrom root (front ++ back) start =
      ((matchesFrom root front start).flatMap fun outer =>
        (matchesFrom root back outer.value).map (Match.below outer.location)) ∧
    (∀ items : List Item, matchesFrom root (front ++ .union items :: back) start =
      (matchesFrom root front start).flatMap fun outer => items.flatMap fun item =>
        (matchesFrom root (soleStep item :: back) outer.value).map
          (Match.below outer.location)) ∧
    ∀ document : Json, Path.queryLocated ⟨front ++ back⟩ document =
      (Path.queryLocated ⟨front⟩ document).flatMap fun outer =>
        (matchesFrom document back outer.value).map (Match.below outer.location) := by
  refine ⟨matchesFrom_eq_located root, ?_⟩
  simp only [Path.queryLocated_eq_matchesFrom, matchesFrom_eq_located]
  refine ⟨located_append root front back start, ?_,
    fun document => located_append document front back document⟩
  intro items
  rw [located_append]
  apply List.flatMap_congr
  intro outer _
  rw [located_union, List.map_flatMap]

/-- A union with one key twice stands behind a descent.  Each of its items finds an
element in the outer object, and then in the inner one. -/
theorem matchesFrom_append_repeated :
    let value :=
      Json.object [("a", .object [("b", .array [.null])]), ("b", .array [.bool true])]
    matchesFrom value ([.descent] ++ .union [.key "b", .key "b"] :: [.index 0]) value =
      [⟨[.key "b", .index 0], .bool true⟩, ⟨[.key "b", .index 0], .bool true⟩,
        ⟨[.key "a", .key "b", .index 0], .null⟩,
        ⟨[.key "a", .key "b", .index 0], .null⟩] := by
  intro value
  rw [(matchesFrom_append value [.descent] [.index 0] value).2.2.1]
  cbv

end Step

end JsonSelect
