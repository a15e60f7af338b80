/-
Quoted texts and patterns, which have escapes of their own, and literals: what
their readers take is just what is of the kind that the grammar gives.
-/
import JsonSelect.Proofs.Path.Numbers
import Mathlib

namespace JsonSelect.Path

open Grammar Reader

/-! Escapes -/

theorem escape_iff {e c : Char} : Escape e c ↔ Quoted.unescape? e = some c := by
  constructor
  · intro h
    rcases h <;> rfl
  · intro h
    unfold Quoted.unescape? at h
    split_ifs at h with hself hb hf hn hr ht
    · obtain rfl := Option.some.inj h
      rcases hself with rfl | rfl | rfl | rfl
      · exact .backslash
      · exact .slash
      · exact .singleQuote
      · exact .doubleQuote
    · obtain rfl := Option.some.inj h
      exact hb ▸ .backspace
    · obtain rfl := Option.some.inj h
      exact hf ▸ .formFeed
    · obtain rfl := Option.some.inj h
      exact hn ▸ .lineFeed
    · obtain rfl := Option.some.inj h
      exact hr ▸ .carriageReturn
    · obtain rfl := Option.some.inj h
      exact ht ▸ .tab

theorem not_escape_unicode {c : Char} : ¬ Escape 'u' c := by
  intro h
  rcases h

theorem hexDigit_iff {c : Char} {n : Nat} :
    HexDigit c n ↔ Numeral.hexadecimal? c = some n := by
  constructor
  · intro h
    unfold Numeral.hexadecimal?
    rcases h with ⟨hlow, hhigh⟩ | ⟨hlow, hhigh⟩ | ⟨hlow, hhigh⟩
    · rw [if_pos ⟨hlow, hhigh⟩]
      rfl
    · have hlow' : 97 ≤ c.toNat := hlow
      have hdecimal : ¬('0' ≤ c ∧ c ≤ '9') := by
        rintro ⟨-, hc⟩
        have hc' : c.toNat ≤ 57 := hc
        omega
      rw [if_neg hdecimal, if_pos ⟨hlow, hhigh⟩]
      have h97 : 'a'.toNat = 97 := rfl
      exact congrArg some (by omega)
    · have hlow' : 65 ≤ c.toNat := hlow
      have hhigh' : c.toNat ≤ 70 := hhigh
      have hdecimal : ¬('0' ≤ c ∧ c ≤ '9') := by
        rintro ⟨-, hc⟩
        have hc' : c.toNat ≤ 57 := hc
        omega
      have hlower : ¬('a' ≤ c ∧ c ≤ 'f') := by
        rintro ⟨hc, -⟩
        have hc' : 97 ≤ c.toNat := hc
        omega
      rw [if_neg hdecimal, if_neg hlower, if_pos ⟨hlow, hhigh⟩]
      have h65 : 'A'.toNat = 65 := rfl
      exact congrArg some (by omega)
  · intro h
    unfold Numeral.hexadecimal? at h
    split_ifs at h with hdecimal hlower hupper
    · obtain rfl := Option.some.inj h
      exact .decimal hdecimal.1 hdecimal.2
    · obtain rfl := Option.some.inj h
      have hlow : 97 ≤ c.toNat := hlower.1
      have h97 : 'a'.toNat = 97 := rfl
      rw [show c.toNat - 87 = c.toNat - 'a'.toNat + 10 by omega]
      exact .lower hlower.1 hlower.2
    · obtain rfl := Option.some.inj h
      have hlow : 65 ≤ c.toNat := hupper.1
      have h65 : 'A'.toNat = 65 := rfl
      rw [show c.toNat - 55 = c.toNat - 'A'.toNat + 10 by omega]
      exact .upper hupper.1 hupper.2

/-- Four digits name the character of their value, where that is no surrogate. -/
theorem charOfHex4?_eq_some_iff {h₁ h₂ h₃ h₄ c : Char} :
    Numeral.charOfHex4? h₁ h₂ h₃ h₄ = some c ↔
      ∃ n₁ n₂ n₃ n₄, HexDigit h₁ n₁ ∧ HexDigit h₂ n₂ ∧ HexDigit h₃ n₃ ∧ HexDigit h₄ n₄ ∧
        c.toNat = ((n₁ * 16 + n₂) * 16 + n₃) * 16 + n₄ := by
  simp only [hexDigit_iff]
  constructor
  · intro h
    simp only [Numeral.charOfHex4?, List.mapM_cons, List.mapM_nil, Option.bind_eq_bind,
      Option.pure_def, Option.bind_eq_some_iff, Option.some.injEq] at h
    obtain
      ⟨ds, ⟨n₁, hn₁, _, ⟨n₂, hn₂, _, ⟨n₃, hn₃, _, ⟨n₄, hn₄, _, rfl, rfl⟩, rfl⟩, rfl⟩,
        rfl⟩, h⟩ := h
    split at h
    · rename_i hvalid
      obtain rfl := Option.some.inj h
      refine ⟨n₁, n₂, n₃, n₄, hn₁, hn₂, hn₃, hn₄, ?_⟩
      rw [Char.toNat_ofNat, if_pos hvalid]
      simp [Numeral.ofDigits]
    · exact absurd h (by simp)
  · rintro ⟨n₁, n₂, n₃, n₄, hn₁, hn₂, hn₃, hn₄, hc⟩
    have hcode : Numeral.ofDigits 16 [n₁, n₂, n₃, n₄] = c.toNat := by
      rw [hc]
      simp [Numeral.ofDigits]
    have hvalid : c.toNat.isValidChar := c.valid
    simp [Numeral.charOfHex4?, hn₁, hn₂, hn₃, hn₄, hcode, hvalid]

/-! Quoted texts -/

theorem quotedChars_of_readChars {quote : Char} {whole text rest : Text} {s : List Char}
    (h : Quoted.readChars quote whole text = .ok s rest) :
    QuotedChars quote text s rest := by
  fun_induction Quoted.readChars quote whole text generalizing s with
  | case2 =>
      cases h
      exact .close _
  | case4 h₁ h₂ h₃ h₄ text c hc hquote ih =>
      obtain ⟨s, hs, rfl⟩ := Outcome.map_eq_ok.1 h
      obtain ⟨n₁, n₂, n₃, n₄, hn₁, hn₂, hn₃, hn₄, hvalue⟩ := charOfHex4?_eq_some_iff.1 hc
      exact .unicode hn₁ hn₂ hn₃ hn₄ hvalue (ih hs)
  | case7 e text hhex hu c hc hquote ih =>
      obtain ⟨s, hs, rfl⟩ := Outcome.map_eq_ok.1 h
      exact .escape (escape_iff.2 hc) (ih hs)
  | case9 c text hquote hbackslash ih =>
      obtain ⟨s, hs, rfl⟩ := Outcome.map_eq_ok.1 h
      exact .plain hquote hbackslash (ih hs)
  | case1 => cases h
  | case3 => cases h
  | case5 => cases h
  | case6 => cases h
  | case8 => cases h

theorem readChars_close (quote : Char) (whole text : Text) :
    Quoted.readChars quote whole (quote :: text) = .ok [] text := by
  rw [Quoted.readChars.eq_def]
  exact if_pos rfl

theorem readChars_plain {quote c : Char} (hquote : c ≠ quote) (hc : c ≠ '\\')
    (whole text : Text) :
    Quoted.readChars quote whole (c :: text) =
      (Quoted.readChars quote whole text).map (c :: ·) := by
  rw [Quoted.readChars.eq_def]
  exact (if_neg hquote).trans (if_neg hc)

theorem readChars_escape {quote e c : Char} (hquote : '\\' ≠ quote) (he : Escape e c)
    (whole text : Text) :
    Quoted.readChars quote whole ('\\' :: e :: text) =
      (Quoted.readChars quote whole text).map (c :: ·) := by
  have hu : e ≠ 'u' := by
    rintro rfl
    exact not_escape_unicode he
  rw [Quoted.readChars.eq_4 _ _ _ _ _ (fun _ _ _ _ _ h _ => hu h)]
  simp [hquote, hu, escape_iff.1 he]

theorem Grammar.QuotedChars.readChars_eq {quote : Char} {text rest : Text} {s : List Char}
    (h : QuotedChars quote text s rest) (hquote : '\\' ≠ quote) (whole : Text) :
    Quoted.readChars quote whole text = .ok s rest := by
  induction h with
  | close rest => exact readChars_close quote whole rest
  | plain hc hbackslash htext ih =>
      rw [readChars_plain hc hbackslash, ih]
      rfl
  | escape he htext ih =>
      rw [readChars_escape hquote he, ih]
      rfl
  | unicode hn₁ hn₂ hn₃ hn₄ hc htext ih =>
      have hchar := charOfHex4?_eq_some_iff.2 ⟨_, _, _, _, hn₁, hn₂, hn₃, hn₄, hc⟩
      rw [Quoted.readChars.eq_3, if_neg hquote, if_pos rfl, hchar]
      simp only [ih]
      rfl

theorem quoted_iff {text rest : Text} {s : String} :
    Quoted text s rest ↔ Quoted.read text = .ok s rest := by
  constructor
  · rintro ⟨hquote, htext⟩
    rename_i quote chars text
    have hbackslash : '\\' ≠ quote := by
      rcases hquote with rfl | rfl <;> decide
    have hread := htext.readChars_eq hbackslash (quote :: text)
    simp only [Quoted.read, if_pos hquote, hread]
    rfl
  · intro h
    cases text with
    | nil => cases h
    | cons quote text =>
        by_cases hquote : quote = '\x27' ∨ quote = '"'
        · simp only [Quoted.read, if_pos hquote] at h
          obtain ⟨chars, hchars, rfl⟩ := Outcome.map_eq_ok.1 h
          exact .intro hquote (quotedChars_of_readChars hchars)
        · simp only [Quoted.read, if_neg hquote] at h
          cases h

theorem read_of_numberHead {c : Char} (hc : NumberHead c) (text : Text) :
    Quoted.read (c :: text) = .miss := by
  have hquote : c ∉ ['\x27', '"'] := hc.not_mem (by simp [NumberHead])
  apply if_neg
  rintro (rfl | rfl)
  · exact hquote (by simp)
  · exact hquote (by simp)

theorem Grammar.QuotedChars.length_le {quote : Char} {text rest : Text} {s : List Char}
    (h : QuotedChars quote text s rest) : rest.length ≤ text.length := by
  induction h with
  | close rest => simp
  | plain hc hbackslash htext ih => exact Nat.le_succ_of_le ih
  | escape he htext ih =>
      simp only [List.length_cons]
      omega
  | unicode hn₁ hn₂ hn₃ hn₄ hc htext ih =>
      simp only [List.length_cons]
      omega

theorem Grammar.Quoted.length_le {text rest : Text} {s : String}
    (h : Quoted text s rest) : rest.length ≤ text.length := by
  obtain ⟨-, htext⟩ := h
  exact Nat.le_succ_of_le htext.length_le

theorem Grammar.Quoted.head {text rest : Text} {s : String} (h : Quoted text s rest) :
    ∃ quote after, text = quote :: after ∧ (quote = '\x27' ∨ quote = '"') := by
  obtain ⟨hquote, -⟩ := h
  exact ⟨_, _, rfl, hquote⟩

theorem Grammar.Quoted.firm {text rest : Text} {s : String} (h : Quoted text s rest) :
    Firm text := by
  obtain ⟨quote, after, rfl, hquote⟩ := h.head
  rcases hquote with rfl | rfl
  · exact firm_cons (by decide) _
  · exact firm_cons (by decide) _

/-! Patterns -/

theorem source_of_readSource {text rest : Text} {s : List Char}
    (h : readSource text = some (s, rest)) : Source text s rest := by
  fun_induction readSource text generalizing s with
  | case1 => cases h
  | case2 =>
      cases h
      exact .close _
  | case3 => cases h
  | case4 c text ih =>
      obtain ⟨⟨source, after⟩, hsource, hs⟩ := Option.map_eq_some_iff.1 h
      by_cases hc : c = '/'
      · subst hc
        cases hs
        exact .slash (ih hsource)
      · simp only [if_neg hc] at hs
        cases hs
        exact .pair hc (ih hsource)
  | case5 c text hslash hlast hpair ih =>
      obtain ⟨⟨source, after⟩, hsource, hs⟩ := Option.map_eq_some_iff.1 h
      cases hs
      refine .plain hslash ?_ (ih hsource)
      rintro rfl
      cases text with
      | nil => exact hlast rfl rfl
      | cons d text => exact hpair d text rfl rfl

theorem Grammar.Source.readSource_eq {text rest : Text} {s : List Char}
    (h : Source text s rest) : readSource text = some (s, rest) := by
  induction h with
  | close rest => rfl
  | slash htext ih => simp [readSource, ih]
  | pair hc htext ih => simp [readSource, hc, ih]
  | plain hslash hbackslash htext ih =>
      rw [readSource.eq_5 _ _ hslash (fun h _ => hbackslash h)
        (fun _ _ h _ => hbackslash h), ih]
      rfl

theorem ofLetter?_eq_some_iff {c : Char} {flag : Flag} :
    Flag.ofLetter? c = some flag ↔ c = flag.letter := by
  constructor
  · intro h
    unfold Flag.ofLetter? at h
    split at h
    · cases h
      rfl
    · cases h
      rfl
    · cases h
      rfl
    · cases h
  · rintro rfl
    exact Flag.ofLetter?_letter flag

theorem flags_readFlags (text : Text) :
    Flags text (readFlags text).1 (readFlags text).2 := by
  induction text with
  | nil => exact .nil []
  | cons c text ih =>
      unfold readFlags
      split
      · rename_i flag hflag
        rw [ofLetter?_eq_some_iff.1 hflag]
        exact .cons ih
      · exact .nil _

/-- No flag is at the front. -/
def NoFlag (text : Text) : Prop :=
  ∀ c ∈ text.head?, c ∉ ['i', 'm', 's']

theorem letter_mem (flag : Flag) : flag.letter ∈ ['i', 'm', 's'] := by
  cases flag <;> decide

theorem Stops.noFlag {text : Text} (h : Stops text) : NoFlag text := by
  intro c hc hflag
  have hname := (h c hc).1
  simp only [List.mem_cons, List.not_mem_nil, or_false] at hflag
  rcases hflag with rfl | rfl | rfl
  · exact absurd hname (by decide)
  · exact absurd hname (by decide)
  · exact absurd hname (by decide)

theorem NoFlag.readFlags_eq {text : Text} (h : NoFlag text) :
    readFlags text = ([], text) := by
  cases text with
  | nil => rfl
  | cons c text =>
      have hnone : Flag.ofLetter? c = none := by
        rw [Option.eq_none_iff_forall_ne_some]
        intro flag hflag
        exact h c rfl (ofLetter?_eq_some_iff.1 hflag ▸ letter_mem flag)
      simp [readFlags, hnone]

theorem Grammar.Flags.readFlags_eq {text rest : Text} {flags : List Flag}
    (h : Flags text flags rest) (hrest : NoFlag rest) :
    readFlags text = (flags, rest) := by
  induction h with
  | nil rest => exact hrest.readFlags_eq
  | cons htext ih => simp [readFlags, Flag.ofLetter?_letter, ih hrest]

/-- A pattern is all that its source and its flags give. -/
theorem of?_eq_some_iff {source : String} {flags : List Flag} {pattern : Pattern} :
    Pattern.of? source flags = some pattern ↔
      pattern.source = source ∧ pattern.flags = flags := by
  constructor
  · intro h
    unfold Pattern.of? at h
    split at h
    · cases h
      exact ⟨rfl, rfl⟩
    · cases h
  · rintro ⟨rfl, rfl⟩
    exact pattern.of?_source_flags

theorem patternText_of_readPattern {text rest : Text} {pattern : Pattern}
    (h : readPattern text = .ok pattern rest) : PatternText text pattern rest := by
  unfold readPattern at h
  split at h
  · rename_i text
    split at h
    · cases h
    · rename_i source after hsource
      dsimp only at h
      split at h
      · rename_i pattern' hpattern
        cases h
        obtain ⟨hs, hflags⟩ := of?_eq_some_iff.1 hpattern
        refine .intro (source_of_readSource hsource) ?_ hs
        rw [hflags]
        exact flags_readFlags after
      · cases h
  · cases h

theorem Grammar.PatternText.readPattern_eq {text rest : Text} {pattern : Pattern}
    (h : PatternText text pattern rest) (hrest : NoFlag rest) :
    readPattern text = .ok pattern rest := by
  obtain ⟨hsource, hflags, hpattern⟩ := h
  simp only [readPattern, hsource.readSource_eq, hflags.readFlags_eq hrest,
    of?_eq_some_iff.2 ⟨hpattern, rfl⟩]

theorem Grammar.PatternText.firm {text rest : Text} {pattern : Pattern}
    (h : PatternText text pattern rest) : Firm text := by
  obtain ⟨-, -, -⟩ := h
  exact firm_cons (by decide) _

theorem Grammar.Source.length_le {text rest : Text} {s : List Char}
    (h : Source text s rest) :
    rest.length ≤ text.length := by
  induction h with
  | close rest => simp
  | plain hslash hbackslash htext ih => exact Nat.le_succ_of_le ih
  | slash htext ih =>
      simp only [List.length_cons]
      omega
  | pair hc htext ih =>
      simp only [List.length_cons]
      omega

theorem Grammar.Flags.length_le {text rest : Text} {flags : List Flag}
    (h : Flags text flags rest) : rest.length ≤ text.length := by
  induction h with
  | nil rest => exact le_rfl
  | cons htext ih => exact Nat.le_succ_of_le ih

theorem Grammar.PatternText.length_le {text rest : Text} {pattern : Pattern}
    (h : PatternText text pattern rest) : rest.length ≤ text.length := by
  obtain ⟨hsource, hflags, -⟩ := h
  exact Nat.le_succ_of_le (hflags.length_le.trans hsource.length_le)

/-! Literals -/

theorem readKeyword_eq_ok {cs text rest : Text} {value v : Scalar} :
    readKeyword cs value text = .ok v rest ↔
      v = value ∧ text = cs ++ rest ∧ NoName rest := by
  unfold readKeyword
  rw [Outcome.bind_eq_ok]
  constructor
  · rintro ⟨_, after, hword, h⟩
    rw [word_eq_ok] at hword
    split at h
    · rename_i c after
      split at h
      · cases h
      · rename_i hc
        cases h
        refine ⟨rfl, hword, ?_⟩
        simpa [NoName] using hc
    · cases h
      exact ⟨rfl, hword, by simp [NoName]⟩
  · rintro ⟨rfl, htext, hhead⟩
    refine ⟨(), rest, word_eq_ok.2 htext, ?_⟩
    cases rest with
    | nil => rfl
    | cons c rest =>
        have hc : isNameChar c = false := hhead c (by simp)
        simp [hc]

theorem readKeyword_of_ne {c d : Char} (h : d ≠ c) (cs text : Text) (value : Scalar) :
    readKeyword (c :: cs) value (d :: text) = .miss := by
  have hword : word (c :: cs) (d :: text) = .miss := by
    apply word_eq_miss
    intro rest heq
    exact h (List.cons.inj heq).1
  simp [readKeyword, hword, Outcome.bind]

theorem readLiteral_def (text : Text) :
    readLiteral text =
      (readKeyword ['n', 'u', 'l', 'l'] .null text).orElse fun _ =>
        (readKeyword ['t', 'r', 'u', 'e'] (.bool true) text).orElse fun _ =>
          (readKeyword ['f', 'a', 'l', 's', 'e'] (.bool false) text).orElse fun _ =>
            ((Quoted.read text).map Scalar.string).orElse fun _ =>
              (readNumber text).map Scalar.number :=
  rfl

theorem literal_of_readLiteral {text rest : Text} {value : Scalar}
    (h : readLiteral text = .ok value rest) : Literal text value rest := by
  rw [readLiteral_def] at h
  rcases Outcome.orElse_eq_ok.1 h with hnull | ⟨-, h⟩
  · obtain ⟨rfl, rfl, -⟩ := readKeyword_eq_ok.1 hnull
    exact .null rest
  rcases Outcome.orElse_eq_ok.1 h with htrue | ⟨-, h⟩
  · obtain ⟨rfl, rfl, -⟩ := readKeyword_eq_ok.1 htrue
    exact .truth rest
  rcases Outcome.orElse_eq_ok.1 h with hfalse | ⟨-, h⟩
  · obtain ⟨rfl, rfl, -⟩ := readKeyword_eq_ok.1 hfalse
    exact .falsity rest
  rcases Outcome.orElse_eq_ok.1 h with hstring | ⟨-, h⟩
  · obtain ⟨s, hs, rfl⟩ := Outcome.map_eq_ok.1 hstring
    exact .string (quoted_iff.2 hs)
  · obtain ⟨x, hx, rfl⟩ := Outcome.map_eq_ok.1 h
    exact .number (numberText_of_readNumber hx)

/-- No word is at the front where a sign, a digit, a point or a quote is. -/
theorem readLiteral_of_head {c : Char} (hn : c ≠ 'n') (ht : c ≠ 't') (hf : c ≠ 'f')
    (text : Text) :
    readLiteral (c :: text) =
      ((Quoted.read (c :: text)).map Scalar.string).orElse fun _ =>
        (readNumber (c :: text)).map Scalar.number := by
  rw [readLiteral_def, readKeyword_of_ne hn, readKeyword_of_ne ht, readKeyword_of_ne hf]
  rfl

theorem Grammar.Literal.readLiteral_eq {text rest : Text} {value : Scalar}
    (h : Literal text value rest) (hrest : Stops rest) :
    readLiteral text = .ok value rest := by
  have hhead := hrest.noName
  cases h with
  | null =>
      rw [readLiteral_def]
      exact Outcome.orElse_of_ok (readKeyword_eq_ok.2 ⟨rfl, rfl, hhead⟩) _
  | truth =>
      rw [readLiteral_def, Outcome.orElse_of_miss (readKeyword_of_ne (by decide) _ _ _)]
      exact Outcome.orElse_of_ok (readKeyword_eq_ok.2 ⟨rfl, rfl, hhead⟩) _
  | falsity =>
      rw [readLiteral_def, Outcome.orElse_of_miss (readKeyword_of_ne (by decide) _ _ _),
        Outcome.orElse_of_miss (readKeyword_of_ne (by decide) _ _ _)]
      exact Outcome.orElse_of_ok (readKeyword_eq_ok.2 ⟨rfl, rfl, hhead⟩) _
  | string htext =>
      obtain ⟨quote, after, rfl, hquote⟩ := htext.head
      have hread := quoted_iff.1 htext
      rw [readLiteral_of_head, hread]
      · rfl
      all_goals rcases hquote with rfl | rfl <;> decide
  | number htext =>
      obtain ⟨c, after, rfl, hc⟩ := htext.head
      have hread := htext.readNumber_eq hrest
      have hne : c ∉ ['n', 't', 'f'] := hc.not_mem (by simp [NumberHead])
      simp only [List.mem_cons, List.not_mem_nil, or_false, not_or] at hne
      obtain ⟨hn, ht, hf⟩ := hne
      rw [readLiteral_of_head hn ht hf, read_of_numberHead hc, hread]
      rfl

theorem Grammar.Literal.length_le {text rest : Text} {value : Scalar}
    (h : Literal text value rest) : rest.length ≤ text.length := by
  rcases h with _ | _ | _ | htext | htext
  · simp only [List.length_cons]
    omega
  · simp only [List.length_cons]
    omega
  · simp only [List.length_cons]
    omega
  · exact htext.length_le
  · exact htext.length_le

end JsonSelect.Path
