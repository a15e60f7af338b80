/-
A text is read as a path exactly if the grammar derives the path from it.
-/
import JsonSelect.Proofs.Path.Complete
import Mathlib

namespace JsonSelect.Path

open Grammar Reader

/-! Operands in relation -/

theorem Grammar.ComparisonText.head {text rest : Text} {comparison : Comparison}
    (h : ComparisonText text comparison rest) :
    ∃ c after, text = c :: after ∧ c ∈ ['=', '!', '<', '>'] := by
  cases h <;> exact ⟨_, _, rfl, by decide⟩

/-- What an operator is read as, where what follows does not go on as one could. -/
theorem Grammar.ComparisonText.readComparison_eq {text rest : Text}
    {comparison : Comparison} (h : ComparisonText text comparison rest)
    (hrest : ∀ after, rest ≠ '=' :: after) :
    readComparison text = .ok comparison rest := by
  cases h with
  | equal => rfl
  | notEqual => rfl
  | lessOrEqual => rfl
  | less => exact readComparison.eq_4 rest hrest
  | greaterOrEqual => rfl
  | greater => exact readComparison.eq_6 rest hrest

theorem Grammar.ComparisonText.length_le {text rest : Text} {comparison : Comparison}
    (h : ComparisonText text comparison rest) : rest.length ≤ text.length := by
  cases h <;> simp only [List.length_cons] <;> omega

theorem Grammar.ComparisonText.firm {text rest : Text} {comparison : Comparison}
    (h : ComparisonText text comparison rest) : Firm text := by
  cases h <;> exact firm_cons (by decide) _

section Related

variable {bound : Nat} {predicate : Reader Predicate} {Pred : Kind Predicate}

theorem readRelation_of_ne {text text' : Text} (h : skipBlanks text = text')
    (hmark : ∀ after, text' ≠ '=' :: '~' :: after) :
    readRelation predicate text =
      (readComparison text').bind fun comparison text =>
        (expect .missingOperand (readOperand predicate) (skipBlanks text)).map
          fun right left => .compare comparison left right := by
  unfold readRelation
  rw [h]
  split
  · rename_i after
    exact absurd rfl (hmark after)
  · rfl

/-- An operand stands alone where no operator follows it. -/
theorem readRelation_of_goesOn {text : Text} (h : GoesOn afterUnary text) :
    readRelation predicate text = .miss := by
  obtain ⟨c, after, htext, hc⟩ := h
  simp only [afterUnary, afterConjunction, closing, List.mem_cons, List.not_mem_nil,
    or_false] at hc
  have hmark : ∀ tail, c :: after ≠ '=' :: '~' :: tail := by
    rintro tail heq
    cases heq
    revert hc
    decide
  rw [readRelation_of_ne htext hmark]
  rcases hc with rfl | rfl | rfl | rfl <;> rfl

theorem readRelation_of_compare (hpredicate : Takes bound predicate Pred (GoesOn closing))
    {text₁ text₂ text₃ text₄ rest : Text} {comparison : Comparison} {right : Operand}
    (hblanks : Blanks text₁ text₂) (hcomparison : ComparisonText text₂ comparison text₃)
    (hblanks' : Blanks text₃ text₄) (hright : OperandText Pred text₄ right rest)
    (hlength : text₄.length ≤ bound + 1) (hrest : Stops rest) :
    readRelation predicate text₁ =
      .ok (fun left => .compare comparison left right) rest := by
  have hskip : skipBlanks text₁ = text₂ := by
    rw [hblanks.skipBlanks_eq, hcomparison.firm.skipBlanks_eq]
  have hskip' : skipBlanks text₃ = text₄ := by
    rw [hblanks'.skipBlanks_eq, hright.firm.skipBlanks_eq]
  have hmark : ∀ after, text₂ ≠ '=' :: '~' :: after := by
    rintro after rfl
    cases hcomparison
  have hend : ∀ after, text₃ ≠ '=' :: after := by
    rintro after rfl
    obtain ⟨c, tail, rfl, hc⟩ := hright.head
    rw [skipBlanks_cons_of_not_isBlank (by decide)] at hskip'
    obtain ⟨rfl, -⟩ := List.cons.inj hskip'
    exact absurd (by simp) hc
  have hread := (takes_operand hpredicate).reads hlength hright hrest
  rw [readRelation_of_ne hskip hmark, hcomparison.readComparison_eq hend]
  simp only [Outcome.bind, hskip', expect, hread]
  rfl

theorem readRelation_of_matching {text₁ text₂ text₃ rest : Text} {pattern : Pattern}
    (hmark : Blanks text₁ ('=' :: '~' :: text₂)) (hblanks : Blanks text₂ text₃)
    (hpattern : PatternText text₃ pattern rest) (hrest : Stops rest) :
    readRelation predicate text₁ = .ok (fun left => .matching left pattern) rest := by
  have hskip : skipBlanks text₁ = '=' :: '~' :: text₂ := by
    rw [hmark.skipBlanks_eq]
    rfl
  have hskip' : skipBlanks text₂ = text₃ := by
    rw [hblanks.skipBlanks_eq, hpattern.firm.skipBlanks_eq]
  have hread := hpattern.readPattern_eq hrest.noFlag
  unfold readRelation
  rw [hskip]
  simp only [hskip', expect, hread]
  rfl

theorem takes_related (hpredicate : Takes bound predicate Pred (GoesOn closing)) :
    Takes (bound + 1) (readRelated predicate) (Related Pred) (GoesOn afterUnary) where
  length_le := by
    have hoperand := takes_operand hpredicate
    intro text value rest h
    cases h with
    | bare hleft => exact hoperand.length_le hleft
    | compare hleft hblanks hcomparison hblanks' hright =>
        have hle := hoperand.length_le hleft
        have hle₁ := hoperand.length_le hright
        have hle₂ := hblanks.length_le
        have hle₃ := hcomparison.length_le
        have hle₄ := hblanks'.length_le
        omega
    | matching hleft hmark hblanks hpattern =>
        have hle := hoperand.length_le hleft
        have hle₁ := hmark.length_le
        have hle₂ := hblanks.length_le
        have hle₃ := hpattern.length_le
        simp only [List.length_cons] at hle₁
        omega
  firm := by
    intro text value rest h
    cases h with
    | bare hleft => exact hleft.firm
    | compare hleft => exact hleft.firm
    | matching hleft => exact hleft.firm
  reads := by
    have hoperand := takes_operand hpredicate
    intro text value rest hlength h hrest
    have hstops := hrest.stops (by decide)
    cases h with
    | bare hleft =>
        have hread := hoperand.reads hlength hleft hstops
        have hnone : readRelation predicate rest = .miss := readRelation_of_goesOn hrest
        simp only [readRelated, hread, Reader.optional, Outcome.bind, hnone]
        rfl
    | compare hleft hblanks hcomparison hblanks' hright =>
        rename_i comparison left right text₁ text₂ text₃ text₄
        have hle := hoperand.length_le hleft
        have hle₁ := hblanks.length_le
        have hle₂ := hcomparison.length_le
        have hle₃ := hblanks'.length_le
        have hskip := hblanks.skipBlanks_eq.trans hcomparison.firm.skipBlanks_eq
        obtain ⟨c, after, htext, hc⟩ := hcomparison.head
        have hgoes : GoesOn afterOperand text₁ :=
          ⟨c, after, hskip.trans htext, List.mem_append_left afterUnary hc⟩
        have hread := hoperand.reads hlength hleft (hgoes.stops (by decide))
        have hrelation :=
          readRelation_of_compare hpredicate hblanks hcomparison hblanks' hright
          (by omega) hstops
        simp only [readRelated, hread, Reader.optional, Outcome.bind, hrelation]
        rfl
    | matching hleft hmark hblanks hpattern =>
        have hgoes : GoesOn afterOperand _ :=
          goesOn_of_blanks hmark (by decide) (by decide)
        have hread := hoperand.reads hlength hleft (hgoes.stops (by decide))
        have hrelation : readRelation predicate _ = .ok _ rest :=
          readRelation_of_matching hmark hblanks hpattern hstops
        simp only [readRelated, hread, Reader.optional, Outcome.bind, hrelation]
        rfl

end Related

/-! Chains -/

section Chains

variable {bound : Nat} {part : Reader Predicate} {Part : Kind Predicate} {k : Char}
variable {allowed : List Char} {missing : Cause}
    {join : Predicate → Predicate → Predicate}

theorem Grammar.Links.goesOn {front whole : Predicate} {text rest : Text}
    (h : Links Part [k, k] join front text whole rest) (hk : isBlank k = false)
    (hrest : GoesOn allowed rest) : GoesOn (k :: allowed) text := by
  cases h with
  | done => exact hrest.mono (List.subset_cons_self k allowed)
  | more hconnective => exact goesOn_of_blanks hconnective (List.mem_cons_self) hk

theorem Grammar.Links.length_le {ends : Text → Prop} (hpart : Takes bound part Part ends)
    {front whole : Predicate} {text rest : Text}
    (h : Links Part [k, k] join front text whole rest) : rest.length ≤ text.length := by
  induction h with
  | done => exact le_rfl
  | more hconnective hblanks hfirst hlinks ih =>
      have hle := hconnective.length_le
      have hle₁ := hblanks.length_le
      have hle₂ := hpart.length_le hfirst
      simp only [List.length_append] at hle
      omega

theorem Grammar.Links.takesMany (hk : isBlank k = false) (hallowed : k ∉ allowed)
    (hpart : Takes bound part Part (GoesOn (k :: allowed))) {front whole : Predicate}
    {text rest : Text} (h : Links Part [k, k] join front text whole rest)
    (hrest : GoesOn allowed rest) (hlength : text.length ≤ bound) :
    ∃ parts, TakesMany
        (fun text => (separator [k, k] text).bind fun _ text =>
          expect missing part text) text parts rest ∧ parts.foldl join front = whole := by
  induction h with
  | done front rest =>
      refine ⟨[], takesMany_nil ?_, rfl⟩
      rw [separator_eq_miss hrest hallowed]
      rfl
  | more hconnective hblanks hfirst hlinks ih =>
      rename_i front value whole text text₁ text₂ text₃ rest
      have hle := hconnective.length_le
      have hle₁ := hblanks.length_le
      have hle₂ := hpart.length_le hfirst
      simp only [List.length_append, List.length_cons, List.length_nil] at hle
      obtain ⟨parts, hmany, rfl⟩ := ih hrest (by omega)
      refine ⟨value :: parts, takesMany_cons ?_ (by omega) hmany, rfl⟩
      have hread := hpart.reads (by omega) hfirst (hlinks.goesOn hk hrest)
      rw [separator_eq hk hconnective hblanks, (hpart.firm hfirst).skipBlanks_eq]
      simp only [Outcome.bind, expect, hread]
      rfl

theorem takes_chain (hk : isBlank k = false) (hallowed : k ∉ allowed)
    (hpart : Takes bound part Part (GoesOn (k :: allowed))) :
    Takes bound (readChain [k, k] missing join part) (Chain Part [k, k] join)
      (GoesOn allowed) where
  length_le := by
    rintro text whole rest ⟨hfirst, hlinks⟩
    exact (hlinks.length_le hpart).trans (hpart.length_le hfirst)
  firm := by
    rintro text whole rest ⟨hfirst, -⟩
    exact hpart.firm hfirst
  reads := by
    rintro text whole rest hlength ⟨hfirst, hlinks⟩ hrest
    have hle := hpart.length_le hfirst
    have hread := hpart.reads hlength hfirst (hlinks.goesOn hk hrest)
    obtain ⟨parts, hmany, rfl⟩ :=
      hlinks.takesMany hk hallowed hpart hrest (hle.trans hlength)
    unfold readChain
    rw [hread]
    change Outcome.map _ (many _ _ _) = _
    rw [hmany _ le_rfl]
    rfl

end Chains

/-! Predicates -/

variable {bound : Nat}

theorem takes_predicate {unary : Reader Predicate} {Part : Kind Predicate}
    (hunary : Takes bound unary Part (GoesOn afterUnary)) :
    Takes bound (readPredicate unary) (Disjunctions Part) (GoesOn closing) :=
  takes_chain (by decide) (by decide) (takes_chain (by decide) (by decide) hunary)

theorem Grammar.Related.head {Pred : Kind Predicate} {text rest : Text}
    {value : Predicate} (h : Related Pred text value rest) :
    ∃ c after, text = c :: after ∧ c ≠ '!' ∧ c ≠ '(' := by
  have hoperand : ∃ operand text₁, OperandText Pred text operand text₁ := by
    cases h with
    | bare hleft => exact ⟨_, _, hleft⟩
    | compare hleft => exact ⟨_, _, hleft⟩
    | matching hleft => exact ⟨_, _, hleft⟩
  obtain ⟨operand, text₁, hleft⟩ := hoperand
  obtain ⟨c, after, rfl, hc⟩ := hleft.head
  exact ⟨c, after, rfl, ne_of_not_mem hc _ (by simp), ne_of_not_mem hc _ (by simp)⟩

/-- What is derived as a negation, as a predicate in parentheses or from operands is
read as such, once the bound on the nesting is as large as the text is long. -/
def IsRead (text : Text) (value : Predicate) (rest : Text) : Prop :=
  rest.length ≤ text.length ∧ Firm text ∧
    ∀ bound, text.length ≤ bound → GoesOn afterUnary rest →
      readUnary bound text = .ok value rest

theorem takes_unary (bound : Nat) :
    Takes bound (readUnary bound) IsRead (GoesOn afterUnary) where
  length_le := fun _ _ _ h => h.1
  firm := fun _ _ _ h => h.2.1
  reads := fun _ _ _ hlength h hrest => h.2.2 bound hlength hrest

theorem isRead_not {value : Predicate} {text text₁ rest : Text}
    (hblanks : Blanks text text₁) (h : IsRead text₁ value rest) :
    IsRead ('!' :: text) (.not value) rest := by
  obtain ⟨hlength, hfirm, hread⟩ := h
  have hle := hblanks.length_le
  refine ⟨?_, firm_cons (by decide) text, ?_⟩
  · simp only [List.length_cons]
    omega
  · intro bound hbound hrest
    simp only [List.length_cons] at hbound
    obtain ⟨bound, rfl⟩ := Nat.exists_eq_add_of_le' (show 1 ≤ bound by omega)
    have hinner := hread bound (by omega) hrest
    have hskip := hblanks.skipBlanks_eq.trans hfirm.skipBlanks_eq
    rw [readUnary, if_pos rfl, hskip, Reader.expect, hinner]
    rfl

theorem isRead_parentheses {value : Predicate} {text text₁ text₂ rest : Text}
    (hblanks : Blanks text text₁) (h : Disjunctions IsRead text₁ value text₂)
    (hclose : Blanks text₂ (')' :: rest)) : IsRead ('(' :: text) value rest := by
  have hle := hblanks.length_le
  have hle₁ := (takes_predicate (takes_unary 0)).length_le h
  have hle₂ := hclose.length_le
  simp only [List.length_cons] at hle₂
  refine ⟨?_, firm_cons (by decide) text, ?_⟩
  · simp only [List.length_cons]
    omega
  · intro bound hbound hrest
    simp only [List.length_cons] at hbound
    obtain ⟨bound, rfl⟩ := Nat.exists_eq_add_of_le' (show 1 ≤ bound by omega)
    have hpredicate := takes_predicate (takes_unary bound)
    have hgoes : GoesOn closing text₂ := goesOn_of_blanks hclose (by decide) (by decide)
    have hread := hpredicate.reads (by omega) h hgoes
    have hskip := hblanks.skipBlanks_eq.trans (hpredicate.firm h).skipBlanks_eq
    have hend : skipBlanks text₂ = ')' :: rest := hclose.skipBlanks_eq
    rw [readUnary, if_neg (by decide), if_pos rfl, hskip, hread]
    simp only [Outcome.commit, Outcome.bind, hend]
    rfl

theorem isRead_related {value : Predicate} {text rest : Text}
    (h : Related (Disjunctions IsRead) text value rest) : IsRead text value rest := by
  have hrelated := takes_related (takes_predicate (takes_unary 0))
  refine ⟨hrelated.length_le h, hrelated.firm h, ?_⟩
  intro bound hbound hrest
  have hhead := h.head
  obtain ⟨c, after, rfl, hnot, hparenthesis⟩ := hhead
  simp only [List.length_cons] at hbound
  obtain ⟨bound, rfl⟩ := Nat.exists_eq_add_of_le' (show 1 ≤ bound by omega)
  have hread :=
    (takes_related (takes_predicate (takes_unary bound))).reads (by simpa using hbound)
    h hrest
  rw [readUnary, if_neg hnot, if_neg hparenthesis, hread]

/-- Every predicate that the grammar derives is read. -/
theorem Grammar.Unary.isRead {value : Predicate} {text rest : Text}
    (h : Unary text value rest) :
    IsRead text value rest :=
  Unary.least isRead_not isRead_parentheses isRead_related h

/-! Paths -/

theorem takes_disjunction (bound : Nat) :
    Takes bound (readPredicate (readUnary bound)) Disjunction (GoesOn closing) := by
  apply takes_predicate
  exact ⟨fun _ _ _ h => h.isRead.1, fun _ _ _ h => h.isRead.2.1,
    fun _ _ _ hlength h hrest => h.isRead.2.2 bound hlength hrest⟩

theorem Grammar.PathText.parse_eq {text : Text} {path : Path} (h : PathText text path) :
    parse text = .ok path := by
  obtain ⟨hroot, hsteps, hblanks⟩ := h
  rename_i steps text₁ text₂
  have hle := hroot.length_le
  simp only [List.length_cons] at hle
  have hskip : skipBlanks text = '$' :: text₁ := hroot.skipBlanks_eq
  have hend : skipBlanks text₂ = [] := hblanks.skipBlanks_eq
  have hstops : Stops text₂ := stops_of_skipBlanks (hend ▸ stops_nil)
  have hread := hsteps.readSteps_eq (takes_disjunction text.length) hstops (by omega)
  have hdollar : expect .missingRoot (char '$') ('$' :: text₁) = .ok () text₁ := rfl
  simp only [parse, readRoot, hskip, hdollar, hread, Outcome.bind, hend]

/-- The reader and the grammar agree on every text. -/
theorem parse_eq_ok_iff {text : Text} {path : Path} :
    parse text = .ok path ↔ PathText text path := by
  constructor
  · exact pathText_of_parse
  · exact fun h => h.parse_eq

theorem ofText?_eq_ok {text : String} {path : Path} :
    ofText? text = .ok path ↔ parse text.toList = .ok path := by
  unfold ofText?
  cases parse text.toList <;> simp [Except.mapError]

section Descents

variable {Pred : Kind Predicate} {text rest : Text} {step : Step}

theorem Grammar.Body.ne_descent (h : Body Pred text step rest) : step ≠ .descent := by
  cases h with
  | sole hitem => cases hitem <;> nofun
  | wildcard => nofun
  | filter => nofun
  | slice => nofun
  | union => nofun

theorem Grammar.Bracket.ne_descent (h : Bracket Pred text step rest) :
    step ≠ .descent := by
  cases h with
  | intro _ hbody _ => exact hbody.ne_descent

theorem Grammar.Child.ne_descent (h : Child Pred text step rest) : step ≠ .descent := by
  cases h with
  | wildcard => nofun
  | bracket hbracket => exact hbracket.ne_descent
  | name => nofun

/-- A descent is read with a step behind it, so no path consists of descents. -/
theorem Grammar.Segments.exists_ne_descent {steps : List Step}
    (h : Segments Pred text steps rest) (hsteps : steps ≠ []) :
    ∃ step ∈ steps, step ≠ .descent := by
  cases h with
  | nil => exact absurd rfl hsteps
  | descent hchild _ =>
      exact ⟨_, List.mem_cons_of_mem _ List.mem_cons_self, hchild.ne_descent⟩
  | dot hchild _ => exact ⟨_, List.mem_cons_self, hchild.ne_descent⟩
  | bracket hbracket _ => exact ⟨_, List.mem_cons_self, hbracket.ne_descent⟩

end Descents

theorem exists_ne_descent_of_ofText? {text : String} {path : Path}
    (h : ofText? text = .ok path) (hsteps : path.steps ≠ []) :
    ∃ step ∈ path.steps, step ≠ .descent := by
  obtain ⟨-, hsegments, -⟩ := parse_eq_ok_iff.1 (ofText?_eq_ok.1 h)
  exact hsegments.exists_ne_descent hsteps

end JsonSelect.Path
