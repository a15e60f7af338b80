/-
Paths that see nothing but the value they start from.  If no operand in the
filters begins at the root, at any depth, the document around the value makes
no difference: what is selected below it is what is selected in it alone.
-/
import Mathlib
import JsonSelect.Proofs.Location.AsPath
import JsonSelect.Proofs.Selection.Composition

namespace JsonSelect

mutual

/-- Whether a filter, and the filters in its operands, never go back to the root. -/
def Step.isLocal : Step → Bool
  | .filter predicate => predicate.isLocal
  | _ => true

def Step.areLocal : List Step → Bool
  | [] => true
  | step :: rest => step.isLocal && Step.areLocal rest

def Predicate.isLocal : Predicate → Bool
  | .compare _ left right => left.isLocal && right.isLocal
  | .matching operand _ => operand.isLocal
  | .bare operand => operand.isLocal
  | .and left right => left.isLocal && right.isLocal
  | .or left right => left.isLocal && right.isLocal
  | .not inner => inner.isLocal

/-- An operand is a literal, or begins at the value under test and goes on
with local steps. -/
def Operand.isLocal : Operand → Bool
  | .path anchor steps => anchor = .current && Step.areLocal steps
  | .literal _ => true

end

/-! Two roots, one meaning -/

mutual

theorem Step.move_eq_of_isLocal (root root' : Json) : (step : Step) →
    step.isLocal = true → step.move root = step.move root'
  | .key _, _ => rfl
  | .index _, _ => rfl
  | .wildcard, _ => rfl
  | .descent, _ => rfl
  | .slice _, _ => rfl
  | .union _, _ => rfl
  | .filter predicate, hlocal => by
      rw [Step.isLocal] at hlocal
      rw [Step.move, Step.move]
      congr 1
      funext value
      apply List.filter_congr
      intro child _
      exact Predicate.holds_eq_of_isLocal root root' predicate hlocal child.2

theorem Step.moves_eq_of_areLocal (root root' : Json) : (steps : List Step) →
    Step.areLocal steps = true → Step.moves root steps = Step.moves root' steps
  | [], _ => rfl
  | step :: rest, hlocal => by
      rw [Step.areLocal, Bool.and_eq_true] at hlocal
      rw [Step.moves, Step.moves, Step.move_eq_of_isLocal root root' step hlocal.1,
        Step.moves_eq_of_areLocal root root' rest hlocal.2]

theorem Predicate.holds_eq_of_isLocal (root root' : Json) : (predicate : Predicate) →
    predicate.isLocal = true →
      ∀ current, predicate.holds root current = predicate.holds root' current
  | .compare _ left right, hlocal, current => by
      rw [Predicate.isLocal, Bool.and_eq_true] at hlocal
      rw [Predicate.holds, Predicate.holds,
        Operand.scalar?_eq_of_isLocal root root' left hlocal.1 current,
        Operand.scalar?_eq_of_isLocal root root' right hlocal.2 current]
  | .matching operand _, hlocal, current => by
      rw [Predicate.isLocal] at hlocal
      rw [Predicate.holds, Predicate.holds,
        Operand.scalar?_eq_of_isLocal root root' operand hlocal current]
  | .bare operand, hlocal, current => by
      rw [Predicate.isLocal] at hlocal
      rw [Predicate.holds, Predicate.holds,
        Operand.isPresent_eq_of_isLocal root root' operand hlocal current]
  | .and left right, hlocal, current => by
      rw [Predicate.isLocal, Bool.and_eq_true] at hlocal
      rw [Predicate.holds, Predicate.holds,
        Predicate.holds_eq_of_isLocal root root' left hlocal.1 current,
        Predicate.holds_eq_of_isLocal root root' right hlocal.2 current]
  | .or left right, hlocal, current => by
      rw [Predicate.isLocal, Bool.and_eq_true] at hlocal
      rw [Predicate.holds, Predicate.holds,
        Predicate.holds_eq_of_isLocal root root' left hlocal.1 current,
        Predicate.holds_eq_of_isLocal root root' right hlocal.2 current]
  | .not inner, hlocal, current => by
      rw [Predicate.isLocal] at hlocal
      rw [Predicate.holds, Predicate.holds,
        Predicate.holds_eq_of_isLocal root root' inner hlocal current]

theorem Operand.scalar?_eq_of_isLocal (root root' : Json) : (operand : Operand) →
    operand.isLocal = true →
      ∀ current, operand.scalar? root current = operand.scalar? root' current
  | .literal _, _, _ => rfl
  | .path anchor steps, hlocal, current => by
      rw [Operand.isLocal, Bool.and_eq_true, decide_eq_true_iff] at hlocal
      rw [Operand.scalar?, Operand.scalar?, hlocal.1,
        Step.moves_eq_of_areLocal root root' steps hlocal.2]
      rfl

theorem Operand.isPresent_eq_of_isLocal (root root' : Json) : (operand : Operand) →
    operand.isLocal = true →
      ∀ current, operand.isPresent root current = operand.isPresent root' current
  | .literal _, _, _ => rfl
  | .path anchor steps, hlocal, current => by
      rw [Operand.isLocal, Bool.and_eq_true, decide_eq_true_iff] at hlocal
      rw [Operand.isPresent, Operand.isPresent, hlocal.1,
        Step.moves_eq_of_areLocal root root' steps hlocal.2]
      rfl

end

/-! What a local path selects -/

/-- Local steps find the same from a value on, whatever the root of the document. -/
theorem Step.matchesFrom_eq_of_areLocal (root root' : Json) {steps : List Step}
    (hlocal : Step.areLocal steps = true) (start : Json) :
    Step.matchesFrom root steps start = Step.matchesFrom root' steps start := by
  rw [Step.matchesFrom, Step.matchesFrom,
    Step.moves_eq_of_areLocal root root' steps hlocal]

/-- The steps that name a location lead on to the value there, and to nothing if
there is none. -/
theorem Location.NamedBy.queryLocated_append {location : Location} {names : List Step}
    (hnames : location.NamedBy names) (steps : List Step) (document : Json) :
    Path.queryLocated ⟨names ++ steps⟩ document =
      (document.resolve? location).toList.flatMap fun value =>
        (Step.matchesFrom document steps value).map (Match.below location) := by
  rw [Path.queryLocated_eq_located, located_append, hnames.located_eq]
  cases document.resolve? location with
  | none => rfl
  | some value =>
      rw [Option.map_some, Option.toList_some, Option.toList_some, List.flatMap_singleton,
        List.flatMap_singleton, Step.matchesFrom_eq_located]

namespace Path

/-- Below a location a local path selects what it selects in the value there as a
document of its own, in the same order, with the location put in front.  So documents
that have the same value at the location give the same matches below it.  There are
steps that name the location as long as its places are counted with 63 bits. -/
theorem queryLocated_below_eq (path : Path) (hlocal : Step.areLocal path.steps = true)
    (location : Location) :
    ((∀ place, .index place ∈ location → place < 0x8000000000000000) →
      ∃ names, location.NamedBy names) ∧
    ∀ names, location.NamedBy names →
      (∀ document value : Json, document.resolve? location = some value →
        Path.queryLocated ⟨names ++ path.steps⟩ document =
          (path.queryLocated value).map (Match.below location)) ∧
      ∀ document document' : Json,
        document.resolve? location = document'.resolve? location →
        Path.queryLocated ⟨names ++ path.steps⟩ document =
          Path.queryLocated ⟨names ++ path.steps⟩ document' := by
  refine ⟨location.exists_namedBy, fun names hnames => ⟨?_, ?_⟩⟩
  · intro document value hvalue
    rw [hnames.queryLocated_append, hvalue, Option.toList_some, List.flatMap_singleton,
      Step.matchesFrom_eq_of_areLocal document value hlocal, queryLocated_eq_matchesFrom]
  · intro document document' hsame
    rw [hnames.queryLocated_append, hnames.queryLocated_append, hsame]
    apply List.flatMap_congr
    intro value _
    rw [Step.matchesFrom_eq_of_areLocal document document' hlocal]

/-- The children in which some child has a member `b`. -/
def aboveB : Path :=
  ⟨[.filter (.bare (.path .current [.filter (.bare (.path .current [.key "b"]))]))]⟩

/-- A filter in a filter, in the second element of an array; what the first
holds is not seen. -/
theorem queryLocated_below_eq_nested :
    Step.areLocal aboveB.steps = true ∧ Location.NamedBy [.index 1] [.index 1] ∧
      Path.queryLocated ⟨.index 1 :: aboveB.steps⟩ (.array [.object [("b", .null)],
        .object [("c", .object [("d", .object [("b", .null)])]),
          ("b", .array [.null])]]) =
          [⟨[.index 1, .key "c"], .object [("d", .object [("b", .null)])]⟩] := by
  have hnames : Location.NamedBy [.index 1] [.index 1] := .cons (.index rfl) .nil
  obtain ⟨hbelow, -⟩ := (queryLocated_below_eq aboveB rfl [.index 1]).2 [.index 1] hnames
  refine ⟨rfl, hnames, (hbelow _ _ rfl).trans ?_⟩
  cbv

end Path

end JsonSelect
