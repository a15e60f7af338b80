/-
The canonical text of a path that was read is read as the same path.  Whatever
is derived from some text is derived from the text that it is written as, and
what the grammar derives is what is read.
-/
import JsonSelect.Proofs.Path.Parse
import JsonSelect.Proofs.Path.WrittenTexts
import Mathlib

namespace JsonSelect.Path

open Grammar

/-! Predicates as they are written -/

/-- A predicate is derived from the text that it is written as, whatever follows. -/
def Rewritten (value : Predicate) : Prop :=
  ∀ after, Unary (value.write after) value after

theorem conjunction_of_unary {text rest : Text} {value : Predicate}
    (h : Unary text value rest) :
    Chain Unary ['&', '&'] .and text value rest :=
  .intro h (.done value rest)

theorem disjunction_of_unary {text rest : Text} {value : Predicate}
    (h : Unary text value rest) :
    Disjunction text value rest :=
  .intro (conjunction_of_unary h) (.done value rest)

theorem blanks_space (text : Text) : Blanks (' ' :: text) text :=
  .cons (by decide) (.nil text)

theorem Rewritten.and {left right : Predicate} (hleft : Rewritten left)
    (hright : Rewritten right) : Rewritten (.and left right) := by
  intro after
  have hlinks : Links Unary ['&', '&'] .and left
      (' ' :: '&' :: '&' :: ' ' :: right.write (')' :: after)) (.and left right)
        (')' :: after) :=
    .more (blanks_space _) (blanks_space _) (hright _) (.done _ _)
  exact .parentheses (.nil _) (.intro (.intro (hleft _) hlinks) (.done _ _)) (.nil _)

theorem Rewritten.or {left right : Predicate} (hleft : Rewritten left)
    (hright : Rewritten right) : Rewritten (.or left right) := by
  intro after
  have hlinks : Links (Chain Unary ['&', '&'] .and) ['|', '|'] .or left
      (' ' :: '|' :: '|' :: ' ' :: right.write (')' :: after)) (.or left right)
        (')' :: after) :=
    .more (blanks_space _) (blanks_space _) (conjunction_of_unary (hright _)) (.done _ _)
  exact .parentheses (.nil _) (.intro (conjunction_of_unary (hleft _)) hlinks) (.nil _)

theorem Rewritten.not {value : Predicate} (h : Rewritten value) :
    Rewritten (.not value) := by
  intro after
  exact .not (.nil _) (.parentheses (.nil _) (disjunction_of_unary (h _)) (.nil _))

theorem yields_disjunctions {Part : Kind Predicate} (hpart : Yields Part Rewritten) :
    Yields (Disjunctions Part) Rewritten :=
  yields_chain (yields_chain hpart fun _ _ => Rewritten.and) fun _ _ => Rewritten.or

/-! Steps as they are written -/

section Steps

variable {Pred : Kind Predicate}

/-- A step that stands in brackets is written in brackets. -/
theorem Grammar.Body.write
    (hpredicate : Yields Pred Rewritten) {text rest : Text} {step : Step}
    (h : Body Pred text step rest) (after : Text) :
    Bracket Disjunction (step.write after) step after := by
  cases h with
  | wildcard => exact .intro (.nil _) (.wildcard _) (.nil _)
  | filter hblanks hinner =>
      have hvalue := disjunction_of_unary (hpredicate hinner (')' :: ']' :: after))
      have hparentheses := Unary.parentheses (.nil _) hvalue (.nil _)
      exact .intro (.nil _) (.filter (.nil _) (disjunction_of_unary hparentheses))
        (.nil _)
  | slice hslice => exact .intro (.nil _) (.slice (sliceText_write _ _)) (.nil _)
  | sole hitem =>
      rename_i item
      cases item with
      | key name => exact .intro (.nil _) (.sole (itemText_write (.key name) _)) (.nil _)
      | index position =>
          exact .intro (.nil _) (.sole (itemText_write (.index position) _)) (.nil _)
  | union hitems hlength =>
      rename_i items
      cases items with
      | nil => exact absurd hlength (by decide)
      | cons item items =>
          exact .intro (.nil _) (.union (items_write item items _) hlength) (.nil _)

theorem Grammar.Bracket.write
    (hpredicate : Yields Pred Rewritten) {text rest : Text} {step : Step}
    (h : Bracket Pred text step rest) (after : Text) :
    Bracket Disjunction (step.write after) step after := by
  obtain ⟨-, hbody, -⟩ := h
  exact hbody.write hpredicate after

theorem Grammar.Child.write
    (hpredicate : Yields Pred Rewritten) {text rest : Text} {step : Step}
    (h : Child Pred text step rest) (after : Text) :
    Bracket Disjunction (step.write after) step after := by
  cases h with
  | wildcard => exact .intro (.nil _) (.wildcard _) (.nil _)
  | bracket hbracket => exact hbracket.write hpredicate after
  | name => exact .intro (.nil _) (.sole (itemText_write (.key _) _)) (.nil _)

/-- Steps are written in brackets, and descents as two dots in front of them. -/
theorem Grammar.Segments.write
    (hpredicate : Yields Pred Rewritten) {text rest : Text} {steps : List Step}
    (h : Segments Pred text steps rest) (after : Text) :
    Segments Disjunction (Step.writeAll after steps) steps after := by
  induction h with
  | nil => exact .nil after
  | descent hchild hsteps ih => exact .descent (.bracket (hchild.write hpredicate _)) ih
  | dot hchild hsteps ih => exact .bracket (hchild.write hpredicate _) ih
  | bracket hbracket hsteps ih => exact .bracket (hbracket.write hpredicate _) ih

theorem Grammar.OperandText.write
    (hpredicate : Yields Pred Rewritten) {text rest : Text} {operand : Operand}
    (h : OperandText Pred text operand rest) (after : Text) :
    OperandText Disjunction (operand.write after) operand after := by
  cases h with
  | root hsteps => exact .root (hsteps.write hpredicate after)
  | current hsteps => exact .current (hsteps.write hpredicate after)
  | literal hliteral => exact .literal (literal_write _ after)

theorem comparisonText_symbol (comparison : Comparison) {after : Text} :
    ComparisonText (comparison.symbol.toList ++ ' ' :: after) comparison
      (' ' :: after) := by
  cases comparison with
  | equal => exact .equal _
  | notEqual => exact .notEqual _
  | less => exact .less _
  | lessOrEqual => exact .lessOrEqual _
  | greater => exact .greater _
  | greaterOrEqual => exact .greaterOrEqual _

theorem Grammar.Related.write
    (hpredicate : Yields Pred Rewritten) {text rest : Text} {value : Predicate}
    (h : Related Pred text value rest) : Rewritten value := by
  intro after
  cases h with
  | bare hoperand => exact .related (.bare (hoperand.write hpredicate after))
  | compare hleft hblanks hcomparison hblanks' hright =>
      exact .related (.compare (hleft.write hpredicate _) (blanks_space _)
        (comparisonText_symbol _) (blanks_space _) (hright.write hpredicate after))
  | matching hleft hmark hblanks hpattern =>
      exact .related (.matching (hleft.write hpredicate _) (blanks_space _)
        (blanks_space _) (hpattern.write after))

end Steps

/-! Paths -/

/-- Every predicate that the grammar derives from some text is derived from its own. -/
theorem yields_unary : Yields Unary Rewritten := by
  intro text value rest h
  have hparts : Yields (fun _ value _ => Rewritten value) Rewritten := fun _ _ _ h => h
  have hinner := yields_disjunctions hparts
  exact Unary.least (M := fun _ value _ => Rewritten value) (fun _ h => h.not)
    (fun _ h _ => hinner h) (fun h => h.write hinner) h

theorem Grammar.PathText.write {text : Text} {path : Path} (h : PathText text path) :
    PathText (path.write []) path := by
  obtain ⟨-, hsteps, -⟩ := h
  exact .intro (.nil _) (hsteps.write (yields_disjunctions yields_unary) []) (.nil _)

end JsonSelect.Path
