/-
A path goes on with whatever is written behind it.  What its steps take of the
text they take in front of any other text, so further steps come after them as
if they stood behind the root alone.
-/
import JsonSelect.Proofs.Path.Detached
import JsonSelect.Proofs.Path.Parse
import Mathlib

namespace JsonSelect.Path

open Grammar

theorem Grammar.Segments.append {Pred : Kind Predicate} {text text₁ rest : Text}
    {front back : List Step} (hfront : Segments Pred text front text₁)
    (hback : Segments Pred text₁ back rest) :
    Segments Pred text (front ++ back) rest := by
  induction hfront with
  | nil => exact hback
  | descent hchild _ ih => exact .descent hchild (ih hback)
  | dot hchild _ ih => exact .dot hchild (ih hback)
  | bracket hbracket _ ih => exact .bracket hbracket (ih hback)

theorem Grammar.Blanks.exists_eq_append {text rest : Text} (h : Blanks text rest) :
    ∃ blanks, text = blanks ++ rest ∧ ∀ c ∈ blanks, c ∈ [' ', '\t', '\n', '\r'] := by
  induction h with
  | nil rest => exact ⟨[], rfl, by simp⟩
  | @cons c _ _ hc _ ih =>
      obtain ⟨blanks, rfl, hblanks⟩ := ih
      exact ⟨c :: blanks, rfl, List.forall_mem_cons.2 ⟨hc, hblanks⟩⟩

/-- The last character of the text, if there is one, is no blank. -/
def EndsFirm (text : Text) : Prop :=
  ∀ c ∈ text.getLast?, c ∉ [' ', '\t', '\n', '\r']

/-- Nothing is left for the blanks at the end of a text that does not end in one. -/
theorem EndsFirm.eq_nil_of_blanks {front text : Text} (hend : EndsFirm (front ++ text))
    (h : Blanks text []) : text = [] := by
  obtain ⟨blanks, rfl, hblanks⟩ := h.exists_eq_append
  rw [List.append_nil] at hend ⊢
  by_contra hne
  have hlast : blanks.getLast hne ∈ (front ++ blanks).getLast? := by
    rw [List.getLast?_append_of_ne_nil front hne, List.getLast?_eq_getLast_of_ne_nil hne]
    rfl
  exact hend _ hlast (hblanks _ (List.getLast_mem hne))

/-- The root and the steps of a path that ends in no blank stand in front of any text. -/
theorem Grammar.PathText.goesOn {text : Text} {path : Path} (h : PathText text path)
    (hend : EndsFirm text) (rest : Text) :
    ∃ text₁, Blanks (text ++ rest) ('$' :: text₁) ∧
      Segments Disjunction text₁ path.steps rest := by
  obtain ⟨hroot, hsteps, hblanks⟩ := h
  have hfront := (hroot.detached_mark ['$']).comp (detaches_steps hsteps)
  obtain ⟨front, rfl, htaken⟩ := hfront
  obtain rfl := hend.eq_nil_of_blanks hblanks
  rw [List.append_nil]
  exact htaken rest

/-- What stands behind the root alone is all that is behind the root. -/
theorem Grammar.PathText.segments {text : Text} {path : Path}
    (h : PathText ('$' :: text) path) :
    ∃ rest, Segments Disjunction text path.steps rest ∧ Blanks rest [] := by
  obtain ⟨hroot, hsteps, hblanks⟩ := h
  have hskip := hroot.skipBlanks_eq
  rw [skipBlanks_cons_of_not_isBlank (by decide),
      skipBlanks_cons_of_not_isBlank (by decide)] at hskip
  obtain rfl := List.tail_eq_of_cons_eq hskip
  exact ⟨_, hsteps, hblanks⟩

theorem Grammar.PathText.append {text text' : Text} {path path' : Path}
    (h : PathText text path) (hend : EndsFirm text) (h' : PathText ('$' :: text') path') :
    PathText (text ++ text') ⟨path.steps ++ path'.steps⟩ := by
  obtain ⟨rest, hback, hblanks⟩ := h'.segments
  obtain ⟨text₁, hroot, hfront⟩ := h.goesOn hend text'
  exact .intro hroot (hfront.append hback) hblanks

end JsonSelect.Path
