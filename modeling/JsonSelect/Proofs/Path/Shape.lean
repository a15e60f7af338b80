/-
The shape of what is read.  In a path and in every operand inside it, at any
depth, a descent stands in front of another kind of step and a union lists at
least two items.  So no match is less deep than the path has steps that go down.
-/
import JsonSelect.Proofs.Path.Parse
import JsonSelect.Proofs.Selection.Order
import Mathlib

namespace JsonSelect

mutual

/-- The steps of the operands in the filter of a step, and those inside them. -/
def Step.inner : Step → List (List Step)
  | .filter predicate => predicate.inner
  | _ => []

/-- The steps of all operands inside the given steps. -/
def Step.allInner : List Step → List (List Step)
  | [] => []
  | step :: rest => step.inner ++ Step.allInner rest

def Predicate.inner : Predicate → List (List Step)
  | .compare _ left right => left.inner ++ right.inner
  | .matching operand _ => operand.inner
  | .bare operand => operand.inner
  | .and left right => left.inner ++ right.inner
  | .or left right => left.inner ++ right.inner
  | .not predicate => predicate.inner

def Operand.inner : Operand → List (List Step)
  | .path _ steps => steps :: Step.allInner steps
  | .literal _ => []

end

namespace Step

/-- Each descent is followed by a step that is none, unions list two items or more, and
slices go forward. -/
structure WellShaped (steps : List Step) : Prop where
  followed : ∀ place : Nat, steps[place]? = some .descent →
    ∃ next, steps[place + 1]? = some next ∧ next ≠ .descent
  two_le_length : ∀ items, .union items ∈ steps → 2 ≤ items.length
  one_le_step : ∀ slice, .slice slice ∈ steps → 1 ≤ slice.step.toInt

namespace WellShaped

variable {step : Step} {steps : List Step}

theorem nil : WellShaped [] :=
  ⟨by simp, by simp, by simp⟩

theorem singleton (hstep : step ≠ .descent)
    (hunion : ∀ items, step = .union items → 2 ≤ items.length) : WellShaped [step] where
  followed := by
    intro place hplace
    exact absurd (List.mem_singleton.1 (List.mem_of_getElem? hplace)).symm hstep
  two_le_length := fun items hmem => hunion items (List.mem_singleton.1 hmem).symm
  one_le_step := fun slice _ => slice.step_toInt_pos

theorem ne_descent (h : WellShaped [step]) : step ≠ .descent := by
  rintro rfl
  obtain ⟨next, hnext, -⟩ := h.followed 0 rfl
  cases hnext

theorem cons (hstep : WellShaped [step]) (hsteps : WellShaped steps) :
    WellShaped (step :: steps) where
  followed := by
    intro place hplace
    cases place with
    | zero => exact absurd (Option.some.inj hplace) hstep.ne_descent
    | succ place => exact hsteps.followed place hplace
  two_le_length := by
    intro items hmem
    rcases List.mem_cons.1 hmem with heq | hmem
    · exact hstep.two_le_length items (List.mem_singleton.2 heq)
    · exact hsteps.two_le_length items hmem
  one_le_step := fun slice _ => slice.step_toInt_pos

/-- A descent may stand in front of a step that is none. -/
theorem descent (hstep : WellShaped [step]) (hsteps : WellShaped steps) :
    WellShaped (.descent :: step :: steps) where
  followed := by
    intro place hplace
    cases place with
    | zero => exact ⟨step, rfl, hstep.ne_descent⟩
    | succ place => exact (hstep.cons hsteps).followed place hplace
  two_le_length := by
    intro items hmem
    have hne : Step.union items ≠ .descent := nofun
    exact (hstep.cons hsteps).two_le_length items (List.mem_of_ne_of_mem hne hmem)
  one_le_step := fun slice _ => slice.step_toInt_pos

end WellShaped

/-- The given steps and all inside them are well shaped. -/
def AllWellShaped (steps : List Step) : Prop :=
  ∀ inner ∈ steps :: allInner steps, WellShaped inner

namespace AllWellShaped

variable {step : Step} {steps : List Step}

theorem nil : AllWellShaped [] :=
  List.forall_mem_singleton.2 .nil

theorem singleton (hstep : WellShaped [step])
    (hinner : ∀ inner ∈ step.inner, WellShaped inner) :
    AllWellShaped [step] := by
  rw [AllWellShaped, List.forall_mem_cons, allInner, allInner, List.append_nil]
  exact ⟨hstep, hinner⟩

theorem cons (hstep : AllWellShaped [step]) (hsteps : AllWellShaped steps) :
    AllWellShaped (step :: steps) := by
  rw [AllWellShaped, List.forall_mem_cons, allInner] at hstep ⊢
  rw [AllWellShaped, List.forall_mem_cons] at hsteps
  rw [allInner, List.append_nil] at hstep
  exact ⟨hstep.1.cons hsteps.1, List.forall_mem_append.2 ⟨hstep.2, hsteps.2⟩⟩

theorem descent (hstep : AllWellShaped [step]) (hsteps : AllWellShaped steps) :
    AllWellShaped (.descent :: step :: steps) := by
  have hcons := hstep.cons hsteps
  rw [AllWellShaped, List.forall_mem_cons] at hstep hsteps hcons ⊢
  exact ⟨hstep.1.descent hsteps.1, hcons.2⟩

end AllWellShaped

end Step

/-- All steps inside the predicate are well shaped. -/
def Predicate.AllWellShaped (predicate : Predicate) : Prop :=
  ∀ inner ∈ predicate.inner, Step.WellShaped inner

namespace Path

open Grammar

/-! What the grammar derives -/

section Kinds

variable {Pred : Kind Predicate} {text rest : Text}

theorem Grammar.Body.allWellShaped (hpredicate : Yields Pred Predicate.AllWellShaped)
    {step : Step} (h : Body Pred text step rest) : Step.AllWellShaped [step] := by
  cases h with
  | wildcard => exact .singleton (.singleton nofun nofun) nofun
  | filter _ hinner => exact .singleton (.singleton nofun nofun) (hpredicate hinner)
  | slice => exact .singleton (.singleton nofun nofun) nofun
  | @sole item =>
      cases item with
      | key => exact .singleton (.singleton nofun nofun) nofun
      | index => exact .singleton (.singleton nofun nofun) nofun
  | union _ hlength =>
      refine .singleton (.singleton nofun ?_) nofun
      rintro items ⟨⟩
      exact hlength

theorem Grammar.Bracket.allWellShaped (hpredicate : Yields Pred Predicate.AllWellShaped)
    {step : Step} (h : Bracket Pred text step rest) : Step.AllWellShaped [step] := by
  obtain ⟨-, hbody, -⟩ := h
  exact hbody.allWellShaped hpredicate

theorem Grammar.Child.allWellShaped (hpredicate : Yields Pred Predicate.AllWellShaped)
    {step : Step} (h : Child Pred text step rest) : Step.AllWellShaped [step] := by
  cases h with
  | wildcard => exact .singleton (.singleton nofun nofun) nofun
  | bracket hbracket => exact hbracket.allWellShaped hpredicate
  | name => exact .singleton (.singleton nofun nofun) nofun

/-- Only a segment that begins with two dots has a descent, and it has a
child behind it. -/
theorem Grammar.Segments.allWellShaped (hpredicate : Yields Pred Predicate.AllWellShaped)
    {steps : List Step} (h : Segments Pred text steps rest) :
    Step.AllWellShaped steps := by
  induction h with
  | nil => exact .nil
  | descent hchild _ ih => exact (hchild.allWellShaped hpredicate).descent ih
  | dot hchild _ ih => exact (hchild.allWellShaped hpredicate).cons ih
  | bracket hbracket _ ih => exact (hbracket.allWellShaped hpredicate).cons ih

theorem Grammar.OperandText.wellShaped (hpredicate : Yields Pred Predicate.AllWellShaped)
    {operand : Operand} (h : OperandText Pred text operand rest) :
    ∀ inner ∈ operand.inner, Step.WellShaped inner := by
  cases h with
  | root hsteps => exact hsteps.allWellShaped hpredicate
  | current hsteps => exact hsteps.allWellShaped hpredicate
  | literal => nofun

theorem Grammar.Related.allWellShaped (hpredicate : Yields Pred Predicate.AllWellShaped)
    {predicate : Predicate} (h : Related Pred text predicate rest) :
    predicate.AllWellShaped := by
  cases h with
  | bare hoperand => exact hoperand.wellShaped hpredicate
  | compare hleft _ _ _ hright =>
      exact List.forall_mem_append.2
        ⟨hleft.wellShaped hpredicate, hright.wellShaped hpredicate⟩
  | matching hleft => exact hleft.wellShaped hpredicate

end Kinds

end Path

end JsonSelect
