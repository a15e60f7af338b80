/-
Whatever the readers of steps and predicates take is of the kind that the
grammar gives, where the same holds of the reader of predicates that they are
given; the circle is closed by induction on how deep predicates may nest.
-/
import JsonSelect.Proofs.Path.Texts
import Mathlib

namespace JsonSelect.Path

open Grammar Reader

/-- Whatever the reader takes is of the kind. -/
def Sound {α : Type} (reader : Reader α) (kind : Kind α) : Prop :=
  ∀ ⦃text : Text⦄ ⦃value : α⦄ ⦃rest : Text⦄, reader text = .ok value rest →
    kind text value rest

/-- A separator takes the blanks on both sides of it. -/
theorem separator_eq_ok {cs text rest : Text} {u : Unit} :
    separator cs text = .ok u rest ↔
      ∃ after, skipBlanks text = cs ++ after ∧ rest = skipBlanks after := by
  unfold separator
  rw [Outcome.bind_eq_ok]
  constructor
  · rintro ⟨_, after, hword, h⟩
    cases h
    exact ⟨after, word_eq_ok.1 hword, rfl⟩
  · rintro ⟨after, htext, rfl⟩
    exact ⟨(), after, word_eq_ok.2 htext, rfl⟩

theorem blanks_of_skipBlanks_eq {text rest : Text} (h : skipBlanks text = rest) :
    Blanks text rest :=
  h ▸ blanks_skipBlanks text

/-! What stands between brackets -/

theorem sound_bound : Sound (optional readInteger) Bound := by
  intro text value rest h
  rcases optional_eq_ok.1 h with ⟨i, rfl, hi⟩ | ⟨rfl, rfl, -⟩
  · exact .present (integer_of_readInteger hi)
  · exact .absent rest

theorem slice_of?_eq_some_iff {start stop : Option Int64} {step : Int64} {slice : Slice} :
    Slice.of? start stop step = some slice ↔
      slice.start = start ∧ slice.stop = stop ∧ slice.step = step := by
  unfold Slice.of?
  split
  · rw [Option.some.injEq]
    constructor
    · rintro rfl
      exact ⟨rfl, rfl, rfl⟩
    · obtain ⟨_, _, _, _⟩ := slice
      rintro ⟨rfl, rfl, rfl⟩
      rfl
  · rename_i hstep
    constructor
    · intro h
      cases h
    · rintro ⟨-, -, rfl⟩
      exact absurd slice.step_pos hstep

theorem sound_slice : Sound readSlice SliceText := by
  intro text slice rest h
  obtain ⟨start, text₁, hstart, hrest⟩ := Outcome.bind_eq_ok.1 h
  obtain ⟨_, text₃, hcolon, hrest⟩ := Outcome.bind_eq_ok.1 hrest
  obtain ⟨stop, text₄, hstop, hrest⟩ := Outcome.bind_eq_ok.1 hrest
  obtain ⟨colon, text₅, hsecond, hstride⟩ := Outcome.bind_eq_ok.1 hrest
  clear h hrest
  obtain ⟨text₂, htext₂, rfl⟩ := separator_eq_ok.1 hcolon
  have hfirst := blanks_of_skipBlanks_eq htext₂
  rcases optional_eq_ok.1 hsecond with ⟨_, rfl, hcolon'⟩ | ⟨rfl, rfl, -⟩
  · obtain ⟨after, hafter, rfl⟩ := separator_eq_ok.1 hcolon'
    obtain ⟨step, text₆, hstep, hstride⟩ := Outcome.bind_eq_ok.1 hstride
    split at hstride
    · rename_i slice' hslice
      cases hstride
      obtain ⟨rfl, rfl, hvalue⟩ := slice_of?_eq_some_iff.1 hslice
      refine .intro (sound_bound hstart) hfirst (blanks_skipBlanks text₂)
        (sound_bound hstop) ?_
      rw [hvalue]
      exact .given (blanks_of_skipBlanks_eq hafter) (blanks_skipBlanks after)
        (sound_bound hstep)
    · cases hstride
  · cases hstride
    exact .intro (sound_bound hstart) hfirst (blanks_skipBlanks text₂) (sound_bound hstop)
      (.absent _)

theorem sound_item : Sound readItem ItemText := by
  intro text item rest h
  rcases Outcome.orElse_eq_ok.1 h with hkey | ⟨-, hindex⟩
  · obtain ⟨name, hname, rfl⟩ := Outcome.map_eq_ok.1 hkey
    exact .key (quoted_iff.2 hname)
  · obtain ⟨position, hposition, rfl⟩ := Outcome.map_eq_ok.1 hindex
    exact .index (integer_of_readInteger hposition)

theorem items_of_many {bound : Nat} {whole text rest : Text} {first : Item}
    {items : List Item} (hfirst : ItemText whole first text)
    (h : many (fun text => (separator [','] text).bind fun _ text =>
      readItem text) bound text =
      .ok items rest) : Items whole (first :: items) rest := by
  induction bound generalizing whole text first items with
  | zero =>
      cases h
      exact .one hfirst
  | succ bound ih =>
      unfold many at h
      split at h
      · rename_i item after hitem
        obtain ⟨items, hitems, rfl⟩ := Outcome.map_eq_ok.1 h
        obtain ⟨_, _, hcomma, hitem⟩ := Outcome.bind_eq_ok.1 hitem
        obtain ⟨text₂, htext₂, rfl⟩ := separator_eq_ok.1 hcomma
        exact .more hfirst (blanks_of_skipBlanks_eq htext₂) (blanks_skipBlanks text₂)
          (ih (sound_item hitem) hitems)
      · cases h
        exact .one hfirst
      · cases h

theorem sound_items : Sound readItems Items := by
  intro text items rest h
  obtain ⟨first, text₁, hfirst, h⟩ := Outcome.bind_eq_ok.1 h
  obtain ⟨items, hitems, rfl⟩ := Outcome.map_eq_ok.1 h
  exact items_of_many (sound_item hfirst) hitems

section Steps

variable {predicate : Reader Predicate} {Pred : Kind Predicate}

theorem body_of_items {text rest : Text} {items : List Item} (h : Items text items rest) :
    Body Pred text (stepOfItems items) rest := by
  rcases h with hitem | ⟨hitem, hcomma, hblanks, hitems⟩
  · rename_i item
    cases item with
    | key name => exact .sole hitem
    | index position => exact .sole hitem
  · rename_i item items text₁ text₂ text₃
    have hlength : 2 ≤ (item :: items).length := by
      cases hitems <;> simp
    have hstep : stepOfItems (item :: items) = .union (item :: items) := by
      cases item <;> cases hitems <;> rfl
    rw [hstep]
    exact .union (.more hitem hcomma hblanks hitems) hlength

theorem sound_body (hpredicate : Sound predicate Pred) :
    Sound (readBody predicate) (Body Pred) := by
  intro text step rest h
  unfold readBody at h
  split at h
  · cases h
    exact .wildcard _
  · rename_i text
    obtain ⟨inner, hinner, rfl⟩ := Outcome.map_eq_ok.1 h
    exact .filter (blanks_skipBlanks text) (hpredicate (expect_eq_ok.1 hinner))
  · rcases Outcome.orElse_eq_ok.1 h with h | ⟨-, h⟩
    · obtain ⟨slice, hread, rfl⟩ := Outcome.map_eq_ok.1 h
      exact .slice (sound_slice hread)
    · obtain ⟨items, hread, rfl⟩ := Outcome.map_eq_ok.1 h
      exact body_of_items (sound_items hread)

theorem sound_bracket (hpredicate : Sound predicate Pred) :
    Sound (readBracket predicate) (Bracket Pred) := by
  intro text step rest h
  unfold readBracket at h
  split at h
  · rename_i text
    obtain ⟨step, after, hstep, h⟩ := Outcome.bind_eq_ok.1 h
    obtain ⟨_, hclose, rfl⟩ := Outcome.map_eq_ok.1 h
    have hbody := sound_body hpredicate (expect_eq_ok.1 hstep)
    have hend := char_eq_ok.1 (expect_eq_ok.1 hclose)
    exact .intro (blanks_skipBlanks text) hbody (blanks_of_skipBlanks_eq hend)
  · cases h

theorem readName_eq_ok {text rest : Text} {name : String} :
    readName text = .ok name rest ↔
      name = String.ofList (text.takeWhile isNameChar) ∧
        rest = text.dropWhile isNameChar ∧ text.takeWhile isNameChar ≠ [] := by
  unfold readName
  rw [List.span_eq_takeWhile_dropWhile]
  split
  · rename_i heq
    rw [Prod.mk.injEq] at heq
    simp [heq.1]
  · rename_i hne heq
    rw [Prod.mk.injEq] at heq
    obtain ⟨rfl, rfl⟩ := heq
    rw [Outcome.ok.injEq]
    constructor
    · rintro ⟨rfl, rfl⟩
      exact ⟨rfl, rfl, hne⟩
    · rintro ⟨rfl, rfl, -⟩
      exact ⟨rfl, rfl⟩

theorem child_of_readName {text rest : Text} {name : String}
    (h : readName text = .ok name rest) : Child Pred text (.key name) rest := by
  obtain ⟨rfl, rfl, hne⟩ := readName_eq_ok.1 h
  have hchars : ∀ c ∈ text.takeWhile isNameChar, isNameChar c = true := by
    intro c hc
    exact List.mem_takeWhile_imp hc
  have hchild : Child Pred _ _ _ := .name hne hchars (text.dropWhile isNameChar)
  rwa [List.takeWhile_append_dropWhile] at hchild

theorem sound_child (hpredicate : Sound predicate Pred) :
    Sound (readChild predicate) (Child Pred) := by
  intro text step rest h
  unfold readChild at h
  split at h
  · cases h
    exact .wildcard _
  · rcases Outcome.orElse_eq_ok.1 h with hbracket | ⟨-, h⟩
    · exact .bracket (sound_bracket hpredicate hbracket)
    · obtain ⟨name, hname, rfl⟩ := Outcome.map_eq_ok.1 h
      exact child_of_readName hname

/-- The steps of a segment stand in front of all that follow it. -/
theorem segments_of_readSegment (hpredicate : Sound predicate Pred)
    {text text₁ rest : Text} {segment steps : List Step}
    (h : readSegment predicate text = .ok segment text₁)
    (hsteps : Segments Pred text₁ steps rest) :
    Segments Pred text (segment ++ steps) rest := by
  unfold readSegment at h
  split at h
  · obtain ⟨step, hstep, rfl⟩ := Outcome.map_eq_ok.1 h
    exact .descent (sound_child hpredicate (expect_eq_ok.1 hstep)) hsteps
  · obtain ⟨step, hstep, rfl⟩ := Outcome.map_eq_ok.1 h
    exact .dot (sound_child hpredicate (expect_eq_ok.1 hstep)) hsteps
  · obtain ⟨step, hstep, rfl⟩ := Outcome.map_eq_ok.1 h
    exact .bracket (sound_bracket hpredicate hstep) hsteps

theorem segments_of_many (hpredicate : Sound predicate Pred) {bound : Nat}
    {text rest : Text} {segments : List (List Step)}
    (h : many (readSegment predicate) bound text = .ok segments rest) :
    Segments Pred text segments.flatten rest := by
  induction bound generalizing text segments with
  | zero =>
      cases h
      exact .nil _
  | succ bound ih =>
      unfold many at h
      split at h
      · rename_i segment after hsegment
        obtain ⟨segments, hsegments, rfl⟩ := Outcome.map_eq_ok.1 h
        exact segments_of_readSegment hpredicate hsegment (ih hsegments)
      · cases h
        exact .nil _
      · cases h

theorem sound_steps (hpredicate : Sound predicate Pred) :
    Sound (readSteps predicate) (Segments Pred) := by
  intro text steps rest h
  obtain ⟨segments, hsegments, rfl⟩ := Outcome.map_eq_ok.1 h
  exact segments_of_many hpredicate hsegments

/-! Operands and what stands between them -/

theorem sound_operand (hpredicate : Sound predicate Pred) :
    Sound (readOperand predicate) (OperandText Pred) := by
  intro text operand rest h
  unfold readOperand at h
  split at h
  · obtain ⟨steps, hsteps, rfl⟩ := Outcome.map_eq_ok.1 h
    exact .root (sound_steps hpredicate hsteps)
  · obtain ⟨steps, hsteps, rfl⟩ := Outcome.map_eq_ok.1 h
    exact .current (sound_steps hpredicate hsteps)
  · obtain ⟨value, hvalue, rfl⟩ := Outcome.map_eq_ok.1 h
    exact .literal (literal_of_readLiteral hvalue)

theorem sound_comparison : Sound readComparison ComparisonText := by
  intro text comparison rest h
  unfold readComparison at h
  split at h
  · cases h
    exact .equal rest
  · cases h
    exact .notEqual rest
  · cases h
    exact .lessOrEqual rest
  · cases h
    exact .less rest
  · cases h
    exact .greaterOrEqual rest
  · cases h
    exact .greater rest
  · cases h

theorem related_of_readRelation (hpredicate : Sound predicate Pred)
    {text text₁ rest : Text} {left : Operand} {relation : Operand → Predicate}
    (hleft : OperandText Pred text left text₁)
    (h : readRelation predicate text₁ = .ok relation rest) :
    Related Pred text (relation left) rest := by
  unfold readRelation at h
  split at h
  · rename_i text₂ hmark
    obtain ⟨pattern, hpattern, rfl⟩ := Outcome.map_eq_ok.1 h
    exact .matching hleft (blanks_of_skipBlanks_eq hmark) (blanks_skipBlanks text₂)
      (patternText_of_readPattern (expect_eq_ok.1 hpattern))
  · obtain ⟨comparison, text₃, hcomparison, h⟩ := Outcome.bind_eq_ok.1 h
    obtain ⟨right, hright, rfl⟩ := Outcome.map_eq_ok.1 h
    exact .compare hleft (blanks_skipBlanks text₁) (sound_comparison hcomparison)
      (blanks_skipBlanks text₃) (sound_operand hpredicate (expect_eq_ok.1 hright))

theorem sound_related (hpredicate : Sound predicate Pred) :
    Sound (readRelated predicate) (Related Pred) := by
  intro text value rest h
  obtain ⟨left, text₁, hleft, h⟩ := Outcome.bind_eq_ok.1 h
  have hoperand := sound_operand hpredicate hleft
  obtain ⟨relation, hrelation, rfl⟩ := Outcome.map_eq_ok.1 h
  rcases optional_eq_ok.1 hrelation with ⟨relation, rfl, hread⟩ | ⟨rfl, rfl, -⟩
  · exact related_of_readRelation hpredicate hoperand hread
  · exact .bare hoperand

end Steps

/-! Predicates -/

section Chains

variable {part : Reader Predicate} {Part : Kind Predicate}
variable {connective : List Char} {missing : Cause}
    {join : Predicate → Predicate → Predicate}

theorem links_of_many (hpart : Sound part Part) {bound : Nat} {text rest : Text}
    {front : Predicate} {parts : List Predicate}
    (h : many (fun text => (separator connective text).bind fun _ text =>
      expect missing part text) bound text = .ok parts rest) :
    Links Part connective join front text (parts.foldl join front) rest := by
  induction bound generalizing text front parts with
  | zero =>
      cases h
      exact .done front _
  | succ bound ih =>
      unfold many at h
      split at h
      · rename_i value after hvalue
        obtain ⟨parts, hparts, rfl⟩ := Outcome.map_eq_ok.1 h
        obtain ⟨_, _, hconnective, hvalue⟩ := Outcome.bind_eq_ok.1 hvalue
        obtain ⟨text₁, htext₁, rfl⟩ := separator_eq_ok.1 hconnective
        exact .more (blanks_of_skipBlanks_eq htext₁) (blanks_skipBlanks text₁)
          (hpart (expect_eq_ok.1 hvalue)) (ih hparts)
      · cases h
        exact .done front _
      · cases h

theorem sound_chain (hpart : Sound part Part) :
    Sound (readChain connective missing join part) (Chain Part connective join) := by
  intro text whole rest h
  obtain ⟨first, text₁, hfirst, h⟩ := Outcome.bind_eq_ok.1 h
  obtain ⟨parts, hparts, rfl⟩ := Outcome.map_eq_ok.1 h
  exact .intro (hpart hfirst) (links_of_many hpart hparts)

end Chains

theorem sound_predicate {unary : Reader Predicate} (hunary : Sound unary Unary) :
    Sound (readPredicate unary) Disjunction :=
  sound_chain (sound_chain hunary)

theorem sound_unary (bound : Nat) : Sound (readUnary bound) Unary := by
  induction bound with
  | zero =>
      intro text value rest h
      cases h
  | succ bound ih =>
      intro text value rest h
      cases text with
      | nil => cases h
      | cons c text =>
          unfold readUnary at h
          split at h
          · rename_i hc
            obtain ⟨inner, hinner, rfl⟩ := Outcome.map_eq_ok.1 h
            rw [hc]
            exact .not (blanks_skipBlanks text) (ih (expect_eq_ok.1 hinner))
          · split at h
            · rename_i hc
              obtain ⟨inner, after, hinner, h⟩ := Outcome.bind_eq_ok.1 h
              obtain ⟨_, hclose, rfl⟩ := Outcome.map_eq_ok.1 h
              have hend := char_eq_ok.1 (expect_eq_ok.1 hclose)
              rw [hc]
              exact .parentheses (blanks_skipBlanks text)
                (sound_predicate ih (Outcome.commit_eq_ok.1 hinner))
                  (blanks_of_skipBlanks_eq hend)
            · exact .related (sound_related (sound_predicate ih) h)

/-! Paths -/

/-- A text that is read as a path is derived as it. -/
theorem pathText_of_parse {text : Text} {path : Path} (h : parse text = .ok path) :
    PathText text path := by
  unfold parse at h
  split at h
  · rename_i path' hroot
    cases h
    obtain ⟨_, text₁, hdollar, h⟩ := Outcome.bind_eq_ok.1 hroot
    obtain ⟨steps, text₂, hsteps, h⟩ := Outcome.bind_eq_ok.1 h
    have hroot := char_eq_ok.1 (expect_eq_ok.1 hdollar)
    injection h with hpath hend
    rw [← hpath]
    exact .intro (blanks_of_skipBlanks_eq hroot)
      (sound_steps (sound_predicate (sound_unary text.length)) hsteps)
      (blanks_of_skipBlanks_eq hend)
  · cases h
  · cases h
  · cases h

end JsonSelect.Path
