/-
Blanks, integers and number literals: what their readers take is of the kind
that the grammar gives, and what is of the kind and ends there is taken.
-/
import JsonSelect.Path.Reader
import JsonSelect.Proofs.Path.Grammar
import JsonSelect.Proofs.Path.Outcome
import Mathlib

namespace JsonSelect.Path

open Grammar Reader

/-! Blanks -/

theorem isBlank_iff {c : Char} : isBlank c = true ↔ c ∈ [' ', '\t', '\n', '\r'] := by
  simp [isBlank, or_assoc]

theorem blanks_skipBlanks (text : Text) : Blanks text (skipBlanks text) := by
  induction text with
  | nil => exact .nil []
  | cons c text ih =>
      by_cases hc : isBlank c
      · have hskip : skipBlanks (c :: text) = skipBlanks text := by
          simp [skipBlanks, hc]
        rw [hskip]
        exact .cons (isBlank_iff.1 hc) ih
      · rw [skipBlanks_cons_of_not_isBlank (by simpa using hc)]
        exact .nil _

/-- However much of the blanks a derivation takes, the same is left after all of them. -/
theorem Grammar.Blanks.skipBlanks_eq {text rest : Text} (h : Blanks text rest) :
    skipBlanks text = skipBlanks rest := by
  induction h with
  | nil rest => rfl
  | cons hc htext ih =>
      rw [← ih]
      simp [skipBlanks, isBlank_iff.2 hc]

theorem Grammar.Blanks.length_le {text rest : Text} (h : Blanks text rest) :
    rest.length ≤ text.length := by
  induction h with
  | nil rest => exact le_rfl
  | cons hc htext ih => exact Nat.le_succ_of_le ih

/-- No blank is at the front, but something is. -/
def Firm (text : Text) : Prop :=
  ∃ c rest, text = c :: rest ∧ isBlank c = false

theorem firm_cons {c : Char} (hc : isBlank c = false) (text : Text) : Firm (c :: text) :=
  ⟨c, text, rfl, hc⟩

theorem firm_of_not_mem {c : Char} (others : List Char)
    (hc : c ∉ [' ', '\t', '\n', '\r'] ++ others) (text : Text) : Firm (c :: text) := by
  apply firm_cons
  by_contra hblank
  have hmem := isBlank_iff.1 (by simpa using hblank)
  exact hc (List.mem_append_left others hmem)

theorem Firm.skipBlanks_eq {text : Text} (h : Firm text) : skipBlanks text = text := by
  obtain ⟨c, rest, rfl, hc⟩ := h
  exact skipBlanks_cons_of_not_isBlank hc rest

/-! Where a name, a number or a run of steps ends -/

/-- No character of a name is at the front. -/
def NoName (text : Text) : Prop :=
  ∀ c ∈ text.head?, isNameChar c = false

/-- The text goes on with nothing that belongs to a name, to a number or to a step. -/
def Stops (text : Text) : Prop :=
  ∀ c ∈ text.head?, isNameChar c = false ∧ c ∉ ['.', '[', '+']

theorem Stops.noName {text : Text} (h : Stops text) : NoName text := by
  intro c hc
  exact (h c hc).1

theorem stops_nil : Stops [] := by
  intro c hc
  simp at hc

theorem stops_cons {c : Char} {text : Text} :
    Stops (c :: text) ↔ isNameChar c = false ∧ c ∉ ['.', '[', '+'] := by
  simp [Stops]

/-- Blanks in front do not let a name, a number or a run of steps go on. -/
theorem stops_of_skipBlanks {text : Text} (h : Stops (skipBlanks text)) : Stops text := by
  cases text with
  | nil => exact stops_nil
  | cons c text =>
      by_cases hc : isBlank c
      · have hmem := isBlank_iff.1 hc
        simp only [List.mem_cons, List.not_mem_nil, or_false] at hmem
        rw [stops_cons]
        rcases hmem with rfl | rfl | rfl | rfl <;> decide
      · rwa [skipBlanks_cons_of_not_isBlank (by simpa using hc)] at h

theorem decimal?_eq_some_iff {c : Char} {d : Nat} :
    Numeral.decimal? c = some d ↔ '0' ≤ c ∧ c ≤ '9' ∧ d = c.toNat - '0'.toNat := by
  unfold Numeral.decimal?
  split
  · rename_i h
    simp [h, eq_comm]
  · rename_i h
    simp only [reduceCtorEq, false_iff]
    rintro ⟨hlow, hhigh, -⟩
    exact h ⟨hlow, hhigh⟩

theorem isNameChar_of_digit {c : Char} (hlow : '0' ≤ c) (hhigh : c ≤ '9') :
    isNameChar c = true := by
  have hlow' : 48 ≤ c.toNat := hlow
  have hhigh' : c.toNat ≤ 57 := hhigh
  have hdigit : c.isDigit = true := by
    simp only [Char.isDigit, Bool.and_eq_true, decide_eq_true_eq]
    exact ⟨hlow, hhigh⟩
  simp [isNameChar, isAlphanumeric, Char.isAlphanum, hdigit, show c.toNat < 128 by omega]

/-- No digit is at the front. -/
def NoDigit (text : Text) : Prop :=
  ∀ c ∈ text.head?, Numeral.decimal? c = none

theorem Stops.noDigit {text : Text} (h : Stops text) : NoDigit text := by
  intro c hc
  by_contra hdigit
  obtain ⟨d, hd⟩ := Option.ne_none_iff_exists'.1 hdigit
  obtain ⟨hlow, hhigh, -⟩ := decimal?_eq_some_iff.1 hd
  have hname := (h c hc).1
  rw [isNameChar_of_digit hlow hhigh] at hname
  cases hname

/-! Digits and signs -/

theorem digits_span (text : Text) :
    Digits text (Numeral.span text).1 (Numeral.span text).2 := by
  induction text with
  | nil => exact .nil []
  | cons c text ih =>
      unfold Numeral.span
      cases hd : Numeral.decimal? c with
      | none => exact .nil _
      | some d =>
          obtain ⟨hlow, hhigh, rfl⟩ := decimal?_eq_some_iff.1 hd
          exact .cons hlow hhigh ih

theorem span_of_noDigit {text : Text} (h : NoDigit text) :
    Numeral.span text = ([], text) := by
  cases text with
  | nil => rfl
  | cons c text =>
      have hc : Numeral.decimal? c = none := h c (by simp)
      simp [Numeral.span, hc]

theorem Grammar.Digits.span_eq {text rest : Text} {ds : List Nat}
    (h : Digits text ds rest) (hrest : NoDigit rest) :
    Numeral.span text = (ds, rest) := by
  induction h with
  | nil rest => exact span_of_noDigit hrest
  | cons hlow hhigh htext ih =>
      have hd := decimal?_eq_some_iff.2 ⟨hlow, hhigh, rfl⟩
      simp [Numeral.span, hd, ih hrest]

theorem sign_readSign (text : Text) : Sign text (readSign text).1 (readSign text).2 := by
  unfold readSign
  split
  · exact .minus _
  · exact .plus _
  · exact .absent _

/-- A numeral begins with a digit or with the point. -/
def Starts (text : Text) : Prop :=
  ∃ c rest, text = c :: rest ∧ ('0' ≤ c ∧ c ≤ '9' ∨ c = '.')

theorem Grammar.Digits.length_le {text rest : Text} {ds : List Nat}
    (h : Digits text ds rest) :
    rest.length ≤ text.length := by
  induction h with
  | nil rest => exact le_rfl
  | cons hlow hhigh htext ih => exact Nat.le_succ_of_le ih

theorem Grammar.Digits.starts {text rest : Text} {ds : List Nat} (h : Digits text ds rest)
    (hds : ds ≠ []) : Starts text := by
  cases h with
  | nil => exact absurd rfl hds
  | cons hlow hhigh htext => exact ⟨_, _, rfl, Or.inl ⟨hlow, hhigh⟩⟩

theorem Grammar.Sign.readSign_eq {text rest : Text} {negative : Bool}
    (h : Sign text negative rest) (hrest : Starts rest) :
    readSign text = (negative, rest) := by
  cases h with
  | absent =>
      obtain ⟨c, after, rfl, hc⟩ := hrest
      have hminus : c ≠ '-' := by
        rintro rfl
        revert hc
        decide
      have hplus : c ≠ '+' := by
        rintro rfl
        revert hc
        decide
      unfold readSign
      split
      · rename_i heq
        cases heq
        exact absurd rfl hminus
      · rename_i heq
        cases heq
        exact absurd rfl hplus
      · rfl
  | plus => rfl
  | minus => rfl

/-- The characters that a number or an integer may begin with. -/
def NumberHead (c : Char) : Prop :=
  '0' ≤ c ∧ c ≤ '9' ∨ c ∈ ['.', '+', '-']

theorem NumberHead.not_mem {c : Char} (hc : NumberHead c) {cs : List Char}
    (hcs : ∀ d ∈ cs, ¬ NumberHead d) : c ∉ cs := by
  intro hmem
  exact hcs c hmem hc

theorem NumberHead.firm {c : Char} (hc : NumberHead c) (text : Text) : Firm (c :: text) :=
  firm_of_not_mem [] (hc.not_mem (by simp [NumberHead])) text

theorem Grammar.Sign.head {text rest : Text} {negative : Bool}
    (h : Sign text negative rest) (hrest : Starts rest) :
    ∃ c after, text = c :: after ∧ NumberHead c := by
  rcases h with _ | _ | _
  · obtain ⟨c, after, rfl, hc⟩ := hrest
    refine ⟨c, after, rfl, ?_⟩
    rcases hc with hc | rfl
    · exact Or.inl hc
    · exact Or.inr (by simp)
  · exact ⟨'+', _, rfl, Or.inr (by simp)⟩
  · exact ⟨'-', _, rfl, Or.inr (by simp)⟩

theorem Grammar.Sign.length_le {text rest : Text} {negative : Bool}
    (h : Sign text negative rest) : rest.length ≤ text.length := by
  cases h <;> simp

/-! Integers -/

theorem readInteger_def (text : Text) :
    readInteger text =
      if (Numeral.span (readSign text).2).1.isEmpty then .miss
      else
        match int64? (signed (readSign text).1 (Numeral.span (readSign text).2).1) with
        | some i => .ok i (Numeral.span (readSign text).2).2
        | none => .miss :=
  rfl

theorem integer_of_readInteger {text rest : Text} {i : Int64}
    (h : readInteger text = .ok i rest) : Integer text i rest := by
  rw [readInteger_def] at h
  split at h
  · cases h
  · rename_i hempty
    split at h
    · rename_i i' hi
      cases h
      refine .intro (sign_readSign text) (digits_span _) ?_ (int64?_eq_some_iff.1 hi)
      simpa using hempty
    · cases h

theorem Grammar.Integer.readInteger_eq {text rest : Text} {i : Int64}
    (h : Integer text i rest) (hrest : Stops rest) : readInteger text = .ok i rest := by
  obtain ⟨hsign, hdigits, hds, hvalue⟩ := h
  have hread := hsign.readSign_eq (hdigits.starts hds)
  have hspan := hdigits.span_eq hrest.noDigit
  have hi := int64?_eq_some_iff.2 hvalue
  rw [readInteger_def, hread, hspan]
  simp [hds, hi]

theorem Grammar.Integer.head {text rest : Text} {i : Int64} (h : Integer text i rest) :
    ∃ c after, text = c :: after ∧ NumberHead c := by
  obtain ⟨hsign, hdigits, hds, -⟩ := h
  exact hsign.head (hdigits.starts hds)

theorem Grammar.Integer.firm {text rest : Text} {i : Int64} (h : Integer text i rest) :
    Firm text := by
  obtain ⟨c, after, rfl, hc⟩ := h.head
  exact hc.firm after

theorem Grammar.Integer.length_le {text rest : Text} {i : Int64}
    (h : Integer text i rest) : rest.length ≤ text.length := by
  obtain ⟨hsign, hdigits, -, -⟩ := h
  exact hdigits.length_le.trans hsign.length_le

/-- Nothing is an integer where neither a digit nor a sign is at the front. -/
theorem readInteger_of_stops {text : Text} (h : Stops text) :
    readInteger text = .miss := by
  have hsign : readSign text = (false, text) := by
    unfold readSign
    split
    · rename_i text
      exact absurd (stops_cons.1 h).1 (by decide)
    · rename_i text
      exact absurd (by simp) (stops_cons.1 h).2
    · rfl
  simp [readInteger_def, hsign, span_of_noDigit h.noDigit]

/-! Number literals -/

theorem fraction_readFraction (text : Text) :
    Fraction text (readFraction text).1 (readFraction text).2 := by
  unfold readFraction
  split
  · exact .point (digits_span _)
  · exact .absent _

/-- After the digits of a numeral there is no digit. -/
theorem Grammar.Fraction.noDigit {text rest : Text} {fraction : Option (List Nat)}
    (h : Fraction text fraction rest) (hrest : NoDigit rest) : NoDigit text := by
  cases h with
  | absent => exact hrest
  | point hdigits =>
      intro c hc
      simp only [List.head?_cons, Option.mem_def, Option.some.injEq] at hc
      subst hc
      decide

theorem Grammar.Fraction.readFraction_eq {text rest : Text} {fraction : Option (List Nat)}
    (h : Fraction text fraction rest) (hrest : NoDigit rest) (hpoint : '.' ∉ rest.head?) :
    readFraction text = (fraction, rest) := by
  cases h with
  | absent =>
      unfold readFraction
      split
      · exact absurd rfl hpoint
      · rfl
  | point hdigits => simp [readFraction, hdigits.span_eq hrest]

theorem readExponent_cons (c : Char) (text : Text) :
    readExponent (c :: text) =
      if c = 'e' ∨ c = 'E' then
        match Numeral.span (readSign text).2 with
        | ([], _) => .fail none
        | (digits, rest) => .ok (some (signed (readSign text).1 digits)) rest
      else .ok none (c :: text) :=
  rfl

theorem exponent_of_readExponent {text rest : Text} {exponent : Option Int}
    (h : readExponent text = .ok exponent rest) : Exponent text exponent rest := by
  cases text with
  | nil =>
      cases h
      exact .absent []
  | cons c text =>
      rw [readExponent_cons] at h
      by_cases hc : c = 'e' ∨ c = 'E'
      · rw [if_pos hc] at h
        have hdigits := digits_span (readSign text).2
        generalize Numeral.span (readSign text).2 = spanned at h hdigits
        obtain ⟨digits, after⟩ := spanned
        cases digits with
        | nil => cases h
        | cons d digits =>
            cases h
            exact .mark hc (sign_readSign text) hdigits (List.cons_ne_nil d digits)
      · rw [if_neg hc] at h
        cases h
        exact .absent _

theorem Grammar.Exponent.readExponent_eq {text rest : Text} {exponent : Option Int}
    (h : Exponent text exponent rest) (hrest : Stops rest) :
    readExponent text = .ok exponent rest := by
  cases h with
  | absent =>
      cases text with
      | nil => rfl
      | cons c text =>
          have hc : ¬(c = 'e' ∨ c = 'E') := by
            have hname := (stops_cons.1 hrest).1
            rintro (rfl | rfl)
            · exact absurd hname (by decide)
            · exact absurd hname (by decide)
          rw [readExponent_cons, if_neg hc]
  | mark hc hsign hdigits hds =>
      have hread := hsign.readSign_eq (hdigits.starts hds)
      have hspan := hdigits.span_eq hrest.noDigit
      obtain ⟨d, ds, rfl⟩ := List.exists_cons_of_ne_nil hds
      rw [readExponent_cons, if_pos hc, hread, hspan]

/-- What is in front of an exponent ends where the exponent is left out or begins. -/
theorem Grammar.Exponent.front {text rest : Text} {exponent : Option Int}
    (h : Exponent text exponent rest) (hrest : Stops rest) :
    NoDigit text ∧ '.' ∉ text.head? := by
  cases h with
  | absent =>
      refine ⟨hrest.noDigit, fun hpoint => ?_⟩
      exact absurd (by simp) (hrest '.' hpoint).2
  | mark hc hsign hdigits hds =>
      rcases hc with rfl | rfl
      · simp only [NoDigit, List.head?_cons, Option.mem_def, Option.some.injEq]
        exact ⟨fun c hc => hc ▸ (by decide), by decide⟩
      · simp only [NoDigit, List.head?_cons, Option.mem_def, Option.some.injEq]
        exact ⟨fun c hc => hc ▸ (by decide), by decide⟩

theorem ofDecimal?_eq_some_iff {negative : Bool} {digits : Nat} {exponent : Int}
    {x : Number} :
    Number.ofDecimal? negative digits exponent = some x ↔
      ∃ y, Binary64.ofDecimal? negative digits exponent = some y ∧ x = .float y := by
  simp [Number.ofDecimal?, eq_comm]

theorem names_iff {negative : Bool} {whole : List Nat} {fraction : Option (List Nat)}
    {exponent : Option Int} {x : Number} :
    Names negative whole fraction exponent x ↔
      numberOf? negative whole fraction exponent = some x := by
  have hsigned : (if negative then -(Numeral.ofDigits 10 whole : Int)
      else Numeral.ofDigits 10 whole) = signed negative whole := rfl
  constructor
  · intro h
    cases h with
    | integer hrange => simp [numberOf?, hsigned, Number.ofInt?, hrange]
    | double hkind hvalue =>
        have hfloat := ofDecimal?_eq_some_iff.2 ⟨_, hvalue, rfl⟩
        unfold numberOf?
        by_cases hplain : fraction.isNone ∧ exponent.isNone
        · obtain ⟨hfraction, hexponent⟩ := hplain
          simp only [Option.isNone_iff_eq_none] at hfraction hexponent
          subst hfraction hexponent
          have hint : Number.ofInt? (signed negative whole) = none :=
            dif_neg (hkind rfl rfl)
          simpa [hsigned, hint] using hfloat
        · rw [if_neg hplain]
          exact hfloat
  · intro h
    unfold numberOf? at h
    by_cases hplain : fraction.isNone ∧ exponent.isNone
    · obtain ⟨hfraction, hexponent⟩ := hplain
      simp only [Option.isNone_iff_eq_none] at hfraction hexponent
      subst hfraction hexponent
      simp only [Option.getD_none, List.append_nil, Option.isNone_none, and_self, if_true,
        hsigned, Option.or_eq_some_iff] at h
      rcases h with hint | ⟨hint, hfloat⟩
      · obtain ⟨hrange, rfl⟩ := Number.ofInt?_eq_some_iff.1 hint
        exact .integer hrange
      · obtain ⟨y, hvalue, rfl⟩ := ofDecimal?_eq_some_iff.1 hfloat
        refine .double (fun _ _ hrange => ?_) (by simpa using hvalue)
        rw [Number.ofInt?, dif_pos hrange] at hint
        cases hint
    · rw [if_neg hplain] at h
      obtain ⟨y, hvalue, rfl⟩ := ofDecimal?_eq_some_iff.1 h
      refine .double (fun hfraction hexponent => ?_) hvalue
      exact absurd ⟨by simp [hfraction], by simp [hexponent]⟩ hplain

theorem readNumber_def (text : Text) :
    readNumber text =
      let spanned := Numeral.span (readSign text).2
      let fraction := readFraction spanned.2
      if spanned.1.isEmpty ∧ (fraction.1.getD []).isEmpty then .miss
      else
        (readExponent fraction.2).bind fun exponent rest =>
          match numberOf? (readSign text).1 spanned.1 fraction.1 exponent with
          | some number => .ok number rest
          | none => .miss :=
  rfl

theorem numberText_of_readNumber {text rest : Text} {x : Number}
    (h : readNumber text = .ok x rest) : NumberText text x rest := by
  rw [readNumber_def] at h
  dsimp only at h
  split at h
  · cases h
  · rename_i hdigit
    obtain ⟨exponent, after, hexponent, hnumber⟩ := Outcome.bind_eq_ok.1 h
    split at hnumber
    · rename_i number hvalue
      cases hnumber
      refine .intro (sign_readSign text) (digits_span _) (fraction_readFraction _) ?_
        (exponent_of_readExponent hexponent) (names_iff.2 hvalue)
      simpa using hdigit
    · cases hnumber

/-- A digit or the point follows the sign. -/
theorem starts_of_digit {text₁ text₂ text₃ : Text} {whole : List Nat}
    {fraction : Option (List Nat)} (hwhole : Digits text₁ whole text₂)
    (hfraction : Fraction text₂ fraction text₃)
    (hdigit : whole ++ fraction.getD [] ≠ []) : Starts text₁ := by
  cases hwhole with
  | nil =>
      cases hfraction with
      | absent => exact absurd rfl hdigit
      | point hdigits => exact ⟨'.', _, rfl, Or.inr rfl⟩
  | cons hlow hhigh htext => exact ⟨_, _, rfl, Or.inl ⟨hlow, hhigh⟩⟩

theorem Grammar.NumberText.readNumber_eq {text rest : Text} {x : Number}
    (h : NumberText text x rest) (hrest : Stops rest) : readNumber text = .ok x rest := by
  obtain ⟨hsign, hwhole, hfraction, hdigit, hexponent, hnames⟩ := h
  obtain ⟨hnoDigit, hpoint⟩ := hexponent.front hrest
  have hread := hsign.readSign_eq (starts_of_digit hwhole hfraction hdigit)
  have hspan := hwhole.span_eq (hfraction.noDigit hnoDigit)
  have hpart := hfraction.readFraction_eq hnoDigit hpoint
  have hpower := hexponent.readExponent_eq hrest
  rw [readNumber_def, hread]
  dsimp only
  rw [hspan, hpart, if_neg (by simpa using hdigit), hpower]
  simp [Outcome.bind, names_iff.1 hnames]

theorem Grammar.NumberText.head {text rest : Text} {x : Number}
    (h : NumberText text x rest) :
    ∃ c after, text = c :: after ∧ NumberHead c := by
  obtain ⟨hsign, hwhole, hfraction, hdigit, -, -⟩ := h
  exact hsign.head (starts_of_digit hwhole hfraction hdigit)

theorem Grammar.Fraction.length_le {text rest : Text} {fraction : Option (List Nat)}
    (h : Fraction text fraction rest) : rest.length ≤ text.length := by
  cases h with
  | absent => exact le_rfl
  | point hdigits => exact Nat.le_succ_of_le hdigits.length_le

theorem Grammar.Exponent.length_le {text rest : Text} {exponent : Option Int}
    (h : Exponent text exponent rest) : rest.length ≤ text.length := by
  cases h with
  | absent => exact le_rfl
  | mark hc hsign hdigits hds =>
      exact Nat.le_succ_of_le (hdigits.length_le.trans hsign.length_le)

theorem Grammar.NumberText.length_le {text rest : Text} {x : Number}
    (h : NumberText text x rest) : rest.length ≤ text.length := by
  obtain ⟨hsign, hwhole, hfraction, -, hexponent, -⟩ := h
  have hafter := hexponent.length_le.trans hfraction.length_le
  exact (hafter.trans hwhole.length_le).trans hsign.length_le

end JsonSelect.Path
