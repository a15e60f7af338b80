/-
A reader leaves an end of its text, and the faults that it tells are told of ends
of the text too, so that their places are places between two of its characters.
-/
import JsonSelect.Proofs.Path.Detached
import JsonSelect.Proofs.Path.Sound
import Mathlib

namespace JsonSelect.Path

open Grammar Reader

namespace Outcome

variable {α β : Type}

/-- What is left, and what a fault is told of, are ends of the text.  That characters
are left over is nothing that a reader tells. -/
def Within (text : Text) : Outcome α → Prop
  | .ok _ rest => rest <:+ text
  | .miss => True
  | .fail fault => ∀ told ∈ fault, told.rest <:+ text ∧ told.cause ≠ .trailingCharacters

variable {text whole : Text} {outcome : Outcome α}

theorem Within.mono (h : outcome.Within text) (htext : text <:+ whole) :
    outcome.Within whole := by
  cases outcome with
  | ok value rest => exact List.IsSuffix.trans h htext
  | miss => trivial
  | fail fault => exact fun told htold => ⟨(h told htold).1.trans htext, (h told htold).2⟩

theorem Within.bind (h : outcome.Within text) {next : α → Reader β}
    (hnext : ∀ value rest, rest <:+ text → (next value rest).Within text) :
    (outcome.bind next).Within text := by
  cases outcome with
  | ok value rest => exact hnext value rest h
  | miss => trivial
  | fail fault => exact h

theorem Within.map (h : outcome.Within text) (f : α → β) :
    (outcome.map f).Within text := by
  cases outcome with
  | ok value rest => exact h
  | miss => trivial
  | fail fault => exact h

theorem Within.orElse (h : outcome.Within text) {other : Unit → Outcome α}
    (hother : (other ()).Within text) : (outcome.orElse other).Within text := by
  cases outcome with
  | ok value rest => exact h
  | miss => exact hother
  | fail fault => exact h

theorem Within.commit (h : outcome.Within text) : outcome.commit.Within text := by
  cases outcome with
  | ok value rest => exact h
  | miss => exact nofun
  | fail fault => exact h

theorem within_fail {cause : Cause} {place : Text} (hcause : cause ≠ .trailingCharacters)
    (hplace : place <:+ text) : (fail (α := α) (some ⟨cause, place⟩)).Within text := by
  intro told htold
  cases htold
  exact ⟨hplace, hcause⟩

theorem Within.expect (h : outcome.Within text) {cause : Cause} {place : Text}
    (hcause : cause ≠ .trailingCharacters) (hplace : place <:+ text) :
    (outcome.expect cause place).Within text := by
  cases outcome with
  | ok value rest => exact h
  | miss => exact within_fail hcause hplace
  | fail fault =>
      cases fault with
      | none => exact within_fail hcause hplace
      | some told => exact h

end Outcome

/-- The reader stays within whatever text it is given. -/
def Reader.StaysWithin {α : Type} (reader : Reader α) : Prop :=
  ∀ text, (reader text).Within text

namespace Reader

variable {α : Type} {reader : Reader α}

theorem StaysWithin.on (h : StaysWithin reader) {text rest : Text}
    (hrest : rest <:+ text) : (reader rest).Within text :=
  (h rest).mono hrest

theorem StaysWithin.expect (h : StaysWithin reader) (cause : Cause)
    (hcause : cause ≠ .trailingCharacters) : StaysWithin (expect cause reader) :=
  fun text => (h text).expect hcause List.suffix_rfl

theorem StaysWithin.optional (h : StaysWithin reader) :
    StaysWithin (optional reader) := by
  intro text
  have hread := h text
  unfold Reader.optional
  cases hreader : reader text with
  | ok value rest =>
      rw [hreader] at hread
      exact hread
  | miss => exact List.suffix_rfl
  | fail fault =>
      rw [hreader] at hread
      exact hread

theorem StaysWithin.many (h : StaysWithin reader) (bound : Nat) :
    StaysWithin (many reader bound) := by
  induction bound with
  | zero => exact fun text => List.suffix_rfl
  | succ bound ih =>
      intro text
      have hread := h text
      unfold Reader.many
      cases hreader : reader text with
      | ok value rest =>
          rw [hreader] at hread
          exact (ih.on hread).map _
      | miss => exact List.suffix_rfl
      | fail fault =>
          rw [hreader] at hread
          exact hread

end Reader

section Steps

variable {predicate : Reader Predicate}

end Steps

end JsonSelect.Path
