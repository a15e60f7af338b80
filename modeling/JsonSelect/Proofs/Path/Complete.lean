/-
What the grammar derives the readers of steps and predicates take, where the
same holds of the reader of predicates that they are given.  No derivation can
stop short of what the reader takes, for what may follow it says where it ends.
-/
import JsonSelect.Proofs.Path.Derivation
import JsonSelect.Proofs.Path.Lists
import Mathlib

namespace JsonSelect.Path

open Grammar Reader

/-- What is of the kind begins with no blank, and the reader takes it where it is no
longer than the bound and stands before a text of the given form. -/
structure Takes {α : Type} (bound : Nat) (reader : Reader α) (kind : Kind α)
    (ends : Text → Prop) : Prop where
  length_le : ∀ ⦃text : Text⦄ ⦃value : α⦄ ⦃rest : Text⦄, kind text value rest →
    rest.length ≤ text.length
  firm : ∀ ⦃text : Text⦄ ⦃value : α⦄ ⦃rest : Text⦄, kind text value rest → Firm text
  reads : ∀ ⦃text : Text⦄ ⦃value : α⦄ ⦃rest : Text⦄, text.length ≤ bound →
    kind text value rest → ends rest → reader text = .ok value rest

/-- What closes the parentheses or the brackets around a predicate. -/
def closing : List Char := [')', ']']

def afterConjunction : List Char := '|' :: closing

def afterUnary : List Char := '&' :: afterConjunction

def afterOperand : List Char := ['=', '!', '<', '>'] ++ afterUnary

theorem ne_of_not_mem {c : Char} {cs : List Char} (h : c ∉ cs) : ∀ d ∈ cs, c ≠ d := by
  rintro d hd rfl
  exact h hd

section Steps

variable {bound : Nat} {predicate : Reader Predicate} {Pred : Kind Predicate}

/-! Brackets -/

theorem Grammar.Bound.length_le {text rest : Text} {i : Option Int64}
    (h : Bound text i rest) :
    rest.length ≤ text.length := by
  rcases h with _ | htext
  · exact le_rfl
  · exact htext.length_le

theorem Grammar.Stride.length_le {text rest : Text} {step : Int64}
    (h : Stride text step rest) :
    rest.length ≤ text.length := by
  rcases h with _ | ⟨hcolon, hblanks, hstep⟩
  · exact le_rfl
  · have hle := hcolon.length_le
    simp only [List.length_cons] at hle
    have hle₁ := hblanks.length_le
    have hle₂ := hstep.length_le
    omega

theorem Grammar.SliceText.length_le {text rest : Text} {slice : Slice}
    (h : SliceText text slice rest) : rest.length ≤ text.length := by
  obtain ⟨hstart, hcolon, hblanks, hstop, hstep⟩ := h
  have hle := hcolon.length_le
  simp only [List.length_cons] at hle
  have hle₁ := hstart.length_le
  have hle₂ := hblanks.length_le
  have hle₃ := hstop.length_le
  have hle₄ := hstep.length_le
  omega

theorem Grammar.Items.length_le {text rest : Text} {items : List Item}
    (h : Items text items rest) : rest.length ≤ text.length := by
  induction h with
  | one hitem => exact hitem.length_le
  | more hitem hcomma hblanks hitems ih =>
      have hle := hcomma.length_le
      simp only [List.length_cons] at hle
      have hle₁ := hitem.length_le
      have hle₂ := hblanks.length_le
      omega

/-- Neither a star nor a question mark begins what is then a slice or a list of items. -/
theorem readBody_of_head {c : Char} (hstar : c ≠ '*') (hmark : c ≠ '?') (text : Text) :
    readBody predicate (c :: text) =
      ((readSlice (c :: text)).map Step.slice).orElse fun _ =>
        (readItems (c :: text)).map stepOfItems := by
  unfold readBody
  split
  · rename_i heq
    cases heq
    exact absurd rfl hstar
  · rename_i heq
    cases heq
    exact absurd rfl hmark
  · rfl

theorem Grammar.SliceText.head {text rest : Text} {slice : Slice}
    (h : SliceText text slice rest) :
    ∃ c after, skipBlanks text = c :: after ∧ c ∉ ['*', '?'] := by
  obtain ⟨hstart, hcolon, -, -, -⟩ := h
  generalize slice.start = start at hstart
  rcases hstart with _ | hstart
  · exact ⟨':', _, hcolon.skipBlanks_eq, by decide⟩
  · obtain ⟨c, after, rfl, hc⟩ := hstart.head
    exact ⟨c, after, hstart.firm.skipBlanks_eq, hc.not_mem (by simp [NumberHead])⟩

theorem Grammar.Items.head {text rest : Text} {items : List Item}
    (h : Items text items rest) :
    ∃ c after, text = c :: after ∧ c ∉ ['*', '?'] := by
  have hitem : ∃ item text₁, ItemText text item text₁ := by
    rcases h with hitem | ⟨hitem, -, -, -⟩
    · exact ⟨_, _, hitem⟩
    · exact ⟨_, _, hitem⟩
  obtain ⟨item, text₁, htext | htext⟩ := hitem
  · obtain ⟨quote, after, rfl, hquote⟩ := htext.head
    refine ⟨quote, after, rfl, ?_⟩
    rcases hquote with rfl | rfl <;> decide
  · obtain ⟨c, after, rfl, hc⟩ := htext.head
    exact ⟨c, after, rfl, hc.not_mem (by simp [NumberHead])⟩

theorem readBody_of_slice {text rest : Text} {slice : Slice}
    (h : SliceText text slice rest) (hrest : GoesOn [']'] rest) :
    ∃ rest', readBody predicate (skipBlanks text) = .ok (.slice slice) rest' ∧
      skipBlanks rest' = skipBlanks rest := by
  obtain ⟨rest', hread, hskip⟩ := h.readSlice_eq hrest
  obtain ⟨c, after, htext, hc⟩ := h.head
  refine ⟨rest', ?_, hskip⟩
  rw [htext] at hread ⊢
  rw [readBody_of_head (ne_of_not_mem hc _ (by simp)) (ne_of_not_mem hc _ (by simp)),
    hread]
  rfl

theorem readBody_of_items {text rest : Text} {items : List Item}
    (h : Items text items rest) (hrest : GoesOn [']'] rest) :
    readBody predicate (skipBlanks text) = .ok (stepOfItems items) rest := by
  obtain ⟨hread, hslice⟩ := h.readItems_eq hrest
  rw [h.firm.skipBlanks_eq]
  obtain ⟨c, after, rfl, hc⟩ := h.head
  rw [readBody_of_head (ne_of_not_mem hc _ (by simp)) (ne_of_not_mem hc _ (by simp)),
    hread, hslice]
  rfl

theorem Grammar.Body.readBody_eq
    (hpredicate : Takes bound predicate Pred (GoesOn closing)) {text rest : Text}
    {step : Step} (h : Body Pred text step rest) (hlength : text.length ≤ bound + 1)
    (hrest : GoesOn [']'] rest) :
    ∃ rest', readBody predicate (skipBlanks text) = .ok step rest' ∧
      skipBlanks rest' = skipBlanks rest := by
  cases h with
  | wildcard => exact ⟨rest, rfl, rfl⟩
  | filter hblanks hinner =>
      rename_i inner text text₁
      have hle := hblanks.length_le
      simp only [List.length_cons] at hlength
      have hskip : skipBlanks text = text₁ := by
        rw [hblanks.skipBlanks_eq, (hpredicate.firm hinner).skipBlanks_eq]
      have hread := hpredicate.reads (by omega) hinner (hrest.mono (by decide))
      refine ⟨rest, ?_, rfl⟩
      have hmark : skipBlanks ('?' :: text) = '?' :: text :=
        skipBlanks_cons_of_not_isBlank (by decide) text
      rw [hmark]
      simp only [readBody, hskip, expect, hread]
      rfl
  | slice hslice => exact readBody_of_slice hslice hrest
  | sole hitem =>
      rename_i item
      refine ⟨rest, ?_, rfl⟩
      rw [readBody_of_items (.one hitem) hrest]
      cases item <;> rfl
  | union hitems hlength =>
      rename_i items
      refine ⟨rest, ?_, rfl⟩
      have hstep : stepOfItems items = .union items := by
        match items, hlength with
        | .key _ :: _ :: _, _ => rfl
        | .index _ :: _ :: _, _ => rfl
      rw [readBody_of_items hitems hrest, hstep]

theorem Grammar.Body.length_le (hpredicate : Takes bound predicate Pred (GoesOn closing))
    {text rest : Text} {step : Step} (h : Body Pred text step rest) :
    rest.length ≤ text.length := by
  cases h with
  | wildcard => simp
  | filter hblanks hinner =>
      have hle := hblanks.length_le
      have hle₁ := hpredicate.length_le hinner
      simp only [List.length_cons]
      omega
  | slice hslice => exact hslice.length_le
  | sole hitem => exact hitem.length_le
  | union hitems hlength => exact hitems.length_le

theorem Grammar.Bracket.length_lt
    (hpredicate : Takes bound predicate Pred (GoesOn closing)) {text rest : Text}
    {step : Step} (h : Bracket Pred text step rest) :
    rest.length < text.length := by
  obtain ⟨hblanks, hbody, hclose⟩ := h
  have hle := hclose.length_le
  have hle₁ := hblanks.length_le
  have hle₂ := hbody.length_le hpredicate
  simp only [List.length_cons] at hle ⊢
  omega

theorem takes_bracket (hpredicate : Takes bound predicate Pred (GoesOn closing)) :
    Takes (bound + 1) (readBracket predicate) (Bracket Pred) fun _ => True where
  length_le := fun _ _ _ h => (h.length_lt hpredicate).le
  firm := by
    rintro text step rest ⟨-, -, -⟩
    exact firm_cons (by decide) _
  reads := by
    rintro text step rest hlength ⟨hblanks, hbody, hclose⟩ -
    rename_i text text₁ text₂
    have hle := hblanks.length_le
    simp only [List.length_cons] at hlength
    have hgoes : GoesOn [']'] text₂ := goesOn_of_blanks hclose (by decide) (by decide)
    obtain ⟨rest', hread, hskip⟩ := hbody.readBody_eq hpredicate (by omega) hgoes
    have hend : skipBlanks rest' = ']' :: rest := by
      rw [hskip, hclose.skipBlanks_eq]
      rfl
    rw [← hblanks.skipBlanks_eq] at hread
    simp only [readBracket, expect, hread, Outcome.expect, Outcome.bind, hend, char]
    rfl

/-! Steps -/

theorem readBracket_of_ne {c : Char} (hc : c ≠ '[') (text : Text) :
    readBracket predicate (c :: text) = .miss := by
  unfold readBracket
  split
  · rename_i heq
    cases heq
    exact absurd rfl hc
  · rfl

theorem Grammar.Child.head {text rest : Text} {step : Step}
    (h : Child Pred text step rest) :
    ∃ c after, text = c :: after ∧ c ∉ [' ', '\t', '\n', '\r', '.'] := by
  cases h with
  | wildcard => exact ⟨'*', rest, rfl, by decide⟩
  | bracket hbracket =>
      obtain ⟨-, -, -⟩ := hbracket
      exact ⟨'[', _, rfl, by decide⟩
  | name hname hchars =>
      obtain ⟨c, name, rfl⟩ := List.exists_cons_of_ne_nil hname
      have hc : isNameChar c = true := hchars c (by simp)
      refine ⟨c, name ++ rest, rfl, ?_⟩
      intro hmem
      simp only [List.mem_cons, List.not_mem_nil, or_false] at hmem
      rcases hmem with rfl | rfl | rfl | rfl | rfl <;> exact absurd hc (by decide)

theorem readChild_of_ne {c : Char} (hc : c ≠ '*') (text : Text) :
    readChild predicate (c :: text) =
      (readBracket predicate (c :: text)).orElse fun _ =>
        (readName (c :: text)).map Step.key := by
  unfold readChild
  split
  · rename_i heq
    cases heq
    exact absurd rfl hc
  · rfl

theorem readName_append {name rest : Text} (hname : name ≠ [])
    (hchars : ∀ c ∈ name, isNameChar c = true) (hrest : NoName rest) :
    readName (name ++ rest) = .ok (String.ofList name) rest := by
  have htake : (name ++ rest).takeWhile isNameChar = name := by
    rw [List.takeWhile_append_of_pos hchars]
    cases rest with
    | nil => simp
    | cons c rest =>
        have hc : isNameChar c = false := hrest c (by simp)
        simp [hc]
  have hdrop : (name ++ rest).dropWhile isNameChar = rest := by
    rw [List.dropWhile_append_of_pos hchars]
    cases rest with
    | nil => simp
    | cons c rest =>
        have hc : isNameChar c = false := hrest c (by simp)
        simp [hc]
  rw [readName_eq_ok, htake, hdrop]
  exact ⟨rfl, rfl, hname⟩

theorem takes_child (hpredicate : Takes bound predicate Pred (GoesOn closing)) :
    Takes (bound + 1) (readChild predicate) (Child Pred) NoName where
  length_le := by
    intro text step rest h
    cases h with
    | wildcard => simp
    | bracket hbracket => exact (takes_bracket hpredicate).length_le hbracket
    | name hname hchars => simp
  firm := by
    intro text step rest h
    obtain ⟨c, after, rfl, hc⟩ := h.head
    exact firm_of_not_mem ['.'] hc after
  reads := by
    intro text step rest hlength h hrest
    cases h with
    | wildcard => rfl
    | bracket hbracket =>
        have hread := (takes_bracket hpredicate).reads hlength hbracket trivial
        obtain ⟨-, -, -⟩ := hbracket
        rw [readChild_of_ne (by decide), hread]
        rfl
    | name hname hchars =>
        have hread := readName_append hname hchars hrest
        obtain ⟨c, name, rfl⟩ := List.exists_cons_of_ne_nil hname
        have hc : isNameChar c = true := hchars c (by simp)
        have hstar : c ≠ '*' := by
          rintro rfl
          exact absurd hc (by decide)
        have hbracket : c ≠ '[' := by
          rintro rfl
          exact absurd hc (by decide)
        rw [List.cons_append] at hread ⊢
        rw [readChild_of_ne hstar, readBracket_of_ne hbracket, hread]
        rfl

theorem readSegment_of_stops {text : Text} (h : Stops text) :
    readSegment predicate text = .miss := by
  cases text with
  | nil => rfl
  | cons c text =>
      have hc := (stops_cons.1 h).2
      unfold readSegment
      split
      · rename_i heq
        cases heq
        exact absurd (by simp) hc
      · rename_i heq
        cases heq
        exact absurd (by simp) hc
      · rw [readBracket_of_ne (ne_of_not_mem hc _ (by simp))]
        rfl

theorem Grammar.Segments.noName {text rest : Text} {steps : List Step}
    (h : Segments Pred text steps rest) (hrest : Stops rest) : NoName text := by
  cases h with
  | nil => exact hrest.noName
  | descent => simp [NoName, show isNameChar '.' = false by decide]
  | dot => simp [NoName, show isNameChar '.' = false by decide]
  | bracket hbracket =>
      obtain ⟨-, -, -⟩ := hbracket
      simp [NoName, show isNameChar '[' = false by decide]

theorem Grammar.Segments.length_le
    (hpredicate : Takes bound predicate Pred (GoesOn closing)) {text rest : Text}
    {steps : List Step} (h : Segments Pred text steps rest) :
    rest.length ≤ text.length := by
  induction h with
  | nil => exact le_rfl
  | descent hchild hrest ih =>
      have hle := (takes_child hpredicate).length_le hchild
      simp only [List.length_cons]
      omega
  | dot hchild hrest ih =>
      have hle := (takes_child hpredicate).length_le hchild
      simp only [List.length_cons]
      omega
  | bracket hbracket hrest ih =>
      exact ih.trans ((takes_bracket hpredicate).length_le hbracket)

theorem readSegment_dot {text : Text} (h : '.' ∉ text.head?) :
    readSegment predicate ('.' :: text) =
      (expect .missingStepAfterDot (readChild predicate) text).map fun step =>
        [step] := by
  unfold readSegment
  split
  · rename_i heq
    cases heq
    simp at h
  · rename_i heq
    cases heq
    rfl
  · rename_i hdot
    exact absurd rfl (hdot text)

theorem Grammar.Segments.takesMany
    (hpredicate : Takes bound predicate Pred (GoesOn closing)) {text rest : Text}
    {steps : List Step} (h : Segments Pred text steps rest) (hrest : Stops rest)
    (hlength : text.length ≤ bound + 1) :
    ∃ segments, TakesMany (readSegment predicate) text segments rest ∧
      segments.flatten = steps := by
  induction h with
  | nil rest => exact ⟨[], takesMany_nil (readSegment_of_stops hrest), rfl⟩
  | descent hchild hsteps ih =>
      rename_i step steps text text₁ rest
      have hle := (takes_child hpredicate).length_le hchild
      simp only [List.length_cons] at hlength
      obtain ⟨segments, hmany, rfl⟩ := ih hrest (by omega)
      have hread := (takes_child hpredicate).reads (by omega) hchild (hsteps.noName hrest)
      refine ⟨[.descent, step] :: segments, takesMany_cons ?_ ?_ hmany, rfl⟩
      · simp only [readSegment, expect, hread]
        rfl
      · simp only [List.length_cons]
        omega
  | dot hchild hsteps ih =>
      rename_i step steps text text₁ rest
      have hle := (takes_child hpredicate).length_le hchild
      simp only [List.length_cons] at hlength
      obtain ⟨segments, hmany, rfl⟩ := ih hrest (by omega)
      have hread := (takes_child hpredicate).reads (by omega) hchild (hsteps.noName hrest)
      refine ⟨[step] :: segments, takesMany_cons ?_ ?_ hmany, rfl⟩
      · obtain ⟨c, after, rfl, hc⟩ := hchild.head
        rw [readSegment_dot (by simpa using (ne_of_not_mem hc '.' (by simp)))]
        simp only [expect, hread]
        rfl
      · simp only [List.length_cons]
        omega
  | bracket hbracket hsteps ih =>
      rename_i step steps text text₁ rest
      have hle := (takes_bracket hpredicate).length_le hbracket
      obtain ⟨segments, hmany, rfl⟩ := ih hrest (hle.trans hlength)
      have hread := (takes_bracket hpredicate).reads hlength hbracket trivial
      refine ⟨[step] :: segments, takesMany_cons ?_ ?_ hmany, rfl⟩
      · obtain ⟨-, -, -⟩ := hbracket
        change Outcome.map _ (readBracket predicate _) = _
        rw [hread]
        rfl
      · exact hbracket.length_lt hpredicate

theorem Grammar.Segments.readSteps_eq
    (hpredicate : Takes bound predicate Pred (GoesOn closing)) {text rest : Text}
    {steps : List Step} (h : Segments Pred text steps rest) (hrest : Stops rest)
    (hlength : text.length ≤ bound + 1) :
    readSteps predicate text = .ok steps rest := by
  obtain ⟨segments, hmany, rfl⟩ := h.takesMany hpredicate hrest hlength
  rw [readSteps, hmany _ le_rfl]
  rfl

/-! Operands and what stands between them -/

theorem Grammar.Literal.head {text rest : Text} {value : Scalar}
    (h : Literal text value rest) :
    ∃ c after, text = c :: after ∧
      c ∉ [' ', '\t', '\n', '\r', '!', '(', '=', '$', '@'] := by
  rcases h with _ | _ | _ | htext | htext
  · exact ⟨'n', _, rfl, by decide⟩
  · exact ⟨'t', _, rfl, by decide⟩
  · exact ⟨'f', _, rfl, by decide⟩
  · obtain ⟨quote, after, rfl, hquote⟩ := htext.head
    refine ⟨quote, after, rfl, ?_⟩
    rcases hquote with rfl | rfl <;> decide
  · obtain ⟨c, after, rfl, hc⟩ := htext.head
    exact ⟨c, after, rfl, hc.not_mem (by simp [NumberHead])⟩

theorem Grammar.OperandText.head {text rest : Text} {operand : Operand}
    (h : OperandText Pred text operand rest) :
    ∃ c after, text = c :: after ∧ c ∉ [' ', '\t', '\n', '\r', '!', '(', '='] := by
  cases h with
  | root => exact ⟨'$', _, rfl, by decide⟩
  | current => exact ⟨'@', _, rfl, by decide⟩
  | literal hliteral =>
      obtain ⟨c, after, rfl, hc⟩ := hliteral.head
      exact ⟨c, after, rfl, fun hmem => hc (List.mem_append_left ['$', '@'] hmem)⟩

theorem Grammar.OperandText.firm {text rest : Text} {operand : Operand}
    (h : OperandText Pred text operand rest) : Firm text := by
  obtain ⟨c, after, rfl, hc⟩ := h.head
  exact firm_of_not_mem ['!', '(', '='] hc after

theorem takes_operand (hpredicate : Takes bound predicate Pred (GoesOn closing)) :
    Takes (bound + 1) (readOperand predicate) (OperandText Pred) Stops where
  length_le := by
    intro text operand rest h
    cases h with
    | root hsteps => exact Nat.le_succ_of_le (hsteps.length_le hpredicate)
    | current hsteps => exact Nat.le_succ_of_le (hsteps.length_le hpredicate)
    | literal hliteral => exact hliteral.length_le
  firm := fun _ _ _ h => h.firm
  reads := by
    intro text operand rest hlength h hrest
    cases h with
    | root hsteps =>
        simp only [List.length_cons] at hlength
        have hread := hsteps.readSteps_eq hpredicate hrest (by omega)
        simp only [readOperand, hread]
        rfl
    | current hsteps =>
        simp only [List.length_cons] at hlength
        have hread := hsteps.readSteps_eq hpredicate hrest (by omega)
        simp only [readOperand, hread]
        rfl
    | literal hliteral =>
        have hread := hliteral.readLiteral_eq hrest
        obtain ⟨c, after, rfl, hc⟩ := hliteral.head
        unfold readOperand
        split
        · rename_i heq
          cases heq
          exact absurd (by simp) hc
        · rename_i heq
          cases heq
          exact absurd (by simp) hc
        · rw [hread]
          rfl

end Steps

end JsonSelect.Path
