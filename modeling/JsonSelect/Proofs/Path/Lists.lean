/-
Slices and lists of items: what is of the kind and stands before a closing
bracket is taken.  A derivation may leave blanks to what follows that the reader
has taken, so only what is behind the blanks is the same for both.
-/
import JsonSelect.Proofs.Path.Sound
import Mathlib

namespace JsonSelect.Path

open Grammar Reader

/-- Behind its blanks the text goes on with one of the characters. -/
def GoesOn (marks : List Char) (text : Text) : Prop :=
  ∃ c after, skipBlanks text = c :: after ∧ c ∈ marks

/-- The marks that may stand between the parts of a path. -/
def marks : List Char :=
  [')', ']', ',', ':', '|', '&', '=', '!', '<', '>']

theorem GoesOn.stops {allowed : List Char} {text : Text} (h : GoesOn allowed text)
    (hallowed : allowed ⊆ marks) : Stops text := by
  obtain ⟨c, after, htext, hc⟩ := h
  have hmark := hallowed hc
  simp only [marks, List.mem_cons, List.not_mem_nil, or_false] at hmark
  apply stops_of_skipBlanks
  rw [htext, stops_cons]
  rcases hmark with rfl | rfl | rfl | rfl | rfl | rfl | rfl | rfl | rfl | rfl <;> decide

theorem GoesOn.mono {fewer more : List Char} {text : Text} (h : GoesOn fewer text)
    (hmore : fewer ⊆ more) : GoesOn more text := by
  obtain ⟨c, after, htext, hc⟩ := h
  exact ⟨c, after, htext, hmore hc⟩

theorem goesOn_of_blanks {allowed : List Char} {c : Char} {text after : Text}
    (h : Blanks text (c :: after)) (hc : c ∈ allowed) (hblank : isBlank c = false) :
    GoesOn allowed text := by
  refine ⟨c, after, ?_, hc⟩
  rw [h.skipBlanks_eq]
  exact skipBlanks_cons_of_not_isBlank hblank after

/-- A separator is taken up to the next part. -/
theorem separator_eq {c : Char} {cs text text₁ text₂ : Text} (hc : isBlank c = false)
    (h : Blanks text (c :: cs ++ text₁)) (hblanks : Blanks text₁ text₂) :
    separator (c :: cs) text = .ok () (skipBlanks text₂) := by
  refine separator_eq_ok.2 ⟨text₁, ?_, ?_⟩
  · rw [h.skipBlanks_eq]
    exact skipBlanks_cons_of_not_isBlank hc _
  · rw [hblanks.skipBlanks_eq]

theorem separator_eq_miss {allowed : List Char} {c : Char} {cs text : Text}
    (h : GoesOn allowed text) (hc : c ∉ allowed) : separator (c :: cs) text = .miss := by
  obtain ⟨d, after, htext, hd⟩ := h
  have hword : word (c :: cs) (skipBlanks text) = .miss := by
    apply word_eq_miss
    intro rest hrest
    rw [htext] at hrest
    obtain ⟨rfl, -⟩ := List.cons.inj hrest
    exact hc hd
  rw [separator, hword]
  rfl

/-! Slices -/

theorem Grammar.Bound.readInteger_eq {text rest : Text} {bound : Option Int64}
    (h : Bound text bound rest) (hrest : GoesOn [':', ']'] rest) :
    ∃ rest', optional readInteger (skipBlanks text) = .ok bound rest' ∧
      skipBlanks rest' = skipBlanks rest := by
  have hstops := hrest.stops (by decide)
  rcases h with _ | htext
  · obtain ⟨c, after, hskip, hc⟩ := hrest
    have hmiss : readInteger (skipBlanks text) = .miss := by
      apply readInteger_of_stops
      apply GoesOn.stops _ (by decide : [':', ']'] ⊆ marks)
      exact ⟨c, after, by rw [skipBlanks_skipBlanks, hskip], hc⟩
    refine ⟨skipBlanks text, ?_, skipBlanks_skipBlanks text⟩
    exact optional_eq_ok.2 (Or.inr ⟨rfl, rfl, hmiss⟩)
  · rename_i i
    refine ⟨rest, ?_, rfl⟩
    rw [htext.firm.skipBlanks_eq]
    exact optional_eq_ok.2 (Or.inl ⟨i, rfl, htext.readInteger_eq hstops⟩)

theorem Grammar.Stride.goesOn {text rest : Text} {step : Int64}
    (h : Stride text step rest) (hrest : GoesOn [']'] rest) : GoesOn [':', ']'] text := by
  rcases h with _ | ⟨hcolon, -, -⟩
  · exact hrest.mono (by decide)
  · exact goesOn_of_blanks hcolon (by decide) (by decide)

theorem Grammar.SliceText.readSlice_eq {text rest : Text} {slice : Slice}
    (h : SliceText text slice rest) (hrest : GoesOn [']'] rest) :
    ∃ rest', readSlice (skipBlanks text) = .ok slice rest' ∧
      skipBlanks rest' = skipBlanks rest := by
  obtain ⟨hstart, hcolon, hblanks, hstop, hstep⟩ := h
  rename_i text₁ text₂ text₃ text₄
  obtain ⟨text₁', hread₁, hskip₁⟩ :=
    hstart.readInteger_eq (goesOn_of_blanks hcolon (by decide) (by decide))
  obtain ⟨text₄', hread₄, hskip₄⟩ := hstop.readInteger_eq (hstep.goesOn hrest)
  have hfirst : separator [':'] text₁' = .ok () (skipBlanks text₃) := by
    refine separator_eq_ok.2 ⟨text₂, ?_, hblanks.skipBlanks_eq.symm⟩
    rw [hskip₁, hcolon.skipBlanks_eq]
    rfl
  generalize hvalue : slice.step = step at hstep
  rcases hstep with _ | ⟨hcolon', hblanks', hgiven⟩
  · have hsecond : optional (separator [':']) text₄' = .ok none text₄' := by
      refine optional_eq_ok.2 (Or.inr ⟨rfl, rfl, ?_⟩)
      apply separator_eq_miss _ (by decide : ':' ∉ [']'])
      obtain ⟨c, after, hskip, hc⟩ := hrest
      exact ⟨c, after, hskip₄.trans hskip, hc⟩
    refine ⟨text₄', ?_, hskip₄⟩
    have hslice : slice = ⟨slice.start, slice.stop, 1, by decide⟩ := by
      cases slice
      simp_all
    simp only [readSlice, hread₁, hfirst, hread₄, hsecond, Outcome.bind]
    rw [← hslice]
  · rename_i step text₁' text₂'
    obtain ⟨rest', hread₅, hskip₅⟩ := hgiven.readInteger_eq (hrest.mono (by decide))
    have hsecond :
        optional (separator [':']) text₄' = .ok (some ()) (skipBlanks text₂') := by
      refine optional_eq_ok.2 (Or.inl ⟨(), rfl, ?_⟩)
      refine separator_eq_ok.2 ⟨text₁', ?_, hblanks'.skipBlanks_eq.symm⟩
      rw [hskip₄, hcolon'.skipBlanks_eq]
      rfl
    have hslice : Slice.of? slice.start slice.stop (step.getD 1) = some slice :=
      slice_of?_eq_some_iff.2 ⟨rfl, rfl, hvalue⟩
    refine ⟨rest', ?_, hskip₅⟩
    simp only [readSlice, hread₁, hfirst, hread₄, hsecond, hread₅, hslice, Outcome.bind]

/-! Items -/

theorem Grammar.ItemText.readItem_eq {text rest : Text} {item : Item}
    (h : ItemText text item rest) (hrest : Stops rest) :
    readItem text = .ok item rest := by
  rcases h with htext | htext
  · have hread := quoted_iff.1 htext
    simp only [readItem, hread]
    rfl
  · obtain ⟨c, after, rfl, hc⟩ := htext.head
    have hquoted := read_of_numberHead hc after
    have hread := htext.readInteger_eq hrest
    simp only [readItem, hquoted, hread]
    rfl

/-- What begins with an item that no colon follows is no slice. -/
theorem Grammar.ItemText.readSlice_eq_miss {text rest : Text} {item : Item}
    (h : ItemText text item rest) (hrest : GoesOn [',', ']'] rest) :
    readSlice text = .miss := by
  rcases h with htext | htext
  · obtain ⟨quote, after, rfl, hquote⟩ := htext.head
    have hmiss : readInteger (quote :: after) = .miss := by
      apply readInteger_of_stops
      rw [stops_cons]
      rcases hquote with rfl | rfl <;> decide
    have hbound : optional readInteger (quote :: after) = .ok none (quote :: after) :=
      optional_eq_ok.2 (Or.inr ⟨rfl, rfl, hmiss⟩)
    have hcolon : separator [':'] (quote :: after) = .miss := by
      refine separator_eq_miss
        ⟨quote, after, htext.firm.skipBlanks_eq, List.mem_singleton_self _⟩ ?_
      rcases hquote with rfl | rfl <;> decide
    simp only [readSlice, hbound, hcolon, Outcome.bind]
  · have hread := htext.readInteger_eq (hrest.stops (by decide))
    have hbound := optional_eq_ok.2 (Or.inl ⟨_, rfl, hread⟩)
    have hcolon : separator [':'] rest = .miss := separator_eq_miss hrest (by decide)
    simp only [readSlice, hbound, hcolon, Outcome.bind]

theorem Grammar.ItemText.firm {text rest : Text} {item : Item}
    (h : ItemText text item rest) :
    Firm text := by
  rcases h with htext | htext
  · exact htext.firm
  · exact htext.firm

theorem Grammar.ItemText.length_le {text rest : Text} {item : Item}
    (h : ItemText text item rest) : rest.length ≤ text.length := by
  rcases h with htext | htext
  · exact htext.length_le
  · exact htext.length_le

theorem Grammar.Items.firm {text rest : Text} {items : List Item}
    (h : Items text items rest) :
    Firm text := by
  rcases h with hitem | ⟨hitem, -, -, -⟩
  · exact hitem.firm
  · exact hitem.firm

/-- The first item, and the further ones. -/
theorem Grammar.Items.takesMany {text rest : Text} {items : List Item}
    (h : Items text items rest) (hrest : GoesOn [']'] rest) :
    ∃ first further text₁, items = first :: further ∧ ItemText text first text₁ ∧
      GoesOn [',', ']'] text₁ ∧
        TakesMany (fun text => (separator [','] text).bind fun _ text => readItem text)
          text₁ further rest := by
  induction h with
  | one hitem =>
      refine ⟨_, [], _, rfl, hitem, hrest.mono (by decide), takesMany_nil ?_⟩
      have hcomma : separator [','] _ = .miss := separator_eq_miss hrest (by decide)
      rw [hcomma]
      rfl
  | more hitem hcomma hblanks hitems ih =>
      rename_i item items text text₁ text₂ text₃ rest
      obtain ⟨second, further, text₄, rfl, hsecond, hgoes, hmany⟩ := ih hrest
      have hseparator : separator [','] text₁ = .ok () (skipBlanks text₃) :=
        separator_eq (by decide) hcomma hblanks
      rw [hsecond.firm.skipBlanks_eq] at hseparator
      have hshorter : text₄.length < text₁.length := by
        have hle₁ := hsecond.length_le
        have hle₂ := hblanks.length_le
        have hle₃ := hcomma.length_le
        simp only [List.length_cons] at hle₃
        omega
      refine ⟨item, second :: further, text₁, rfl, hitem,
        goesOn_of_blanks hcomma (by decide) (by decide), takesMany_cons ?_ hshorter hmany⟩
      rw [hseparator]
      exact hsecond.readItem_eq (hgoes.stops (by decide))

theorem Grammar.Items.readItems_eq {text rest : Text} {items : List Item}
    (h : Items text items rest) (hrest : GoesOn [']'] rest) :
    readItems text = .ok items rest ∧ readSlice text = .miss := by
  obtain ⟨first, further, text₁, rfl, hfirst, hgoes, hmany⟩ := h.takesMany hrest
  have hread := hfirst.readItem_eq (hgoes.stops (by decide))
  refine ⟨?_, hfirst.readSlice_eq_miss hgoes⟩
  unfold readItems
  rw [hread]
  change Outcome.map _ (many _ _ _) = _
  rw [hmany _ le_rfl]
  rfl

end JsonSelect.Path
