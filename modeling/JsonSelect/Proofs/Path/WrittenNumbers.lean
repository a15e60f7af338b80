/-
Integers and numbers as they are written: the grammar derives from the text
what was written, and a double is written with all the digits that name it.
-/
import JsonSelect.Path.Writer
import JsonSelect.Proofs.Number.ReadsBack
import JsonSelect.Proofs.Path.Grammar
import JsonSelect.Proofs.Text.Digits
import Mathlib

namespace JsonSelect.Path

open Grammar

/-! Integers -/

theorem digits_map {ds : List Nat} (hds : ∀ d ∈ ds, d < 10) (after : Text) :
    Digits (ds.map Numeral.digitChar ++ after) ds after := by
  induction ds with
  | nil => exact .nil after
  | cons d ds ih =>
      obtain ⟨hlow, hhigh, hd⟩ := Numeral.digitChar_decimal (hds d List.mem_cons_self)
      have hrest := ih fun e he => hds e (List.mem_cons_of_mem d he)
      have hcons := Digits.cons hlow hhigh hrest
      rwa [hd] at hcons

theorem digits_ofNat (n : Nat) (after : Text) :
    Digits (Numeral.ofNat n ++ after) (Numeral.digits 10 n) after :=
  digits_map (Numeral.digits_lt (by decide) n) after

theorem sign_ofInt (i : Int) (after : Text) :
    ∃ negative, Sign (Numeral.ofInt i ++ after) negative
      (Numeral.ofNat i.natAbs ++ after) ∧
      signed negative (Numeral.digits 10 i.natAbs) = i := by
  have hvalue := Numeral.ofDigits_digits 10 i.natAbs (by decide)
  by_cases hi : i < 0
  · refine ⟨true, ?_, ?_⟩
    · rw [Numeral.ofInt, if_pos hi]
      exact .minus _
    · rw [signed, if_pos rfl, hvalue]
      omega
  · refine ⟨false, ?_, ?_⟩
    · rw [Numeral.ofInt, if_neg hi]
      exact .absent _
    · rw [signed, if_neg (by decide), hvalue]
      omega

theorem integer_ofInt (i : Int64) (after : Text) :
    Integer (Numeral.ofInt i.toInt ++ after) i after := by
  obtain ⟨negative, hsign, hvalue⟩ := sign_ofInt i.toInt after
  exact .intro hsign (digits_ofNat _ after) (Numeral.digits_ne_nil 10 _) hvalue.symm

/-! Doubles -/

/-- A number literal without its sign. -/
def Unsigned (negative : Bool) (text : Text) (x : Number) (rest : Text) : Prop :=
  ∃ whole fraction exponent text₁ text₂, Digits text whole text₁ ∧
    Fraction text₁ fraction text₂ ∧ whole ++ fraction.getD [] ≠ [] ∧
      Exponent text₂ exponent rest ∧ Names negative whole fraction exponent x

theorem digitChar_zero : Numeral.digitChar 0 = '0' := rfl

variable {negative : Bool} {d : Decimal} {x : Binary64}

/-- The digits before and after the point are those of the decimal, and the places fit. -/
theorem names_of_append (h : Binary64.ofDecimal? negative d.digits d.exponent = some x)
    {whole : List Nat} {fraction : Option (List Nat)} {exponent : Option Int}
    (zeros : Nat)
    (hdigits : whole ++ fraction.getD [] =
      List.replicate zeros 0 ++ Numeral.digits 10 d.digits)
    (hkind : fraction = none → exponent ≠ none)
    (hplaces : exponent.getD 0 - (fraction.getD []).length = d.exponent) :
    Names negative whole fraction exponent (.float x) := by
  refine .double (fun hfraction hexponent => absurd hexponent (hkind hfraction)) ?_
  rw [hdigits, hplaces, Numeral.ofDigits_concat, Numeral.ofDigits_zeros, Nat.zero_mul,
    Nat.zero_add, Numeral.ofDigits_digits 10 _ (by decide)]
  exact h

theorem digit_zero (after : Text) : Digits ('0' :: after) [0] after :=
  .cons (by decide) (by decide) (.nil after)

/-- A whole number with a point and a zero after it. -/
theorem unsigned_whole (h : Binary64.ofDecimal? negative d.digits d.exponent = some x)
    (hexponent : 0 ≤ d.exponent) (hplaces : d.exponent ≤ 16) (after : Text) :
    Unsigned negative (Numeral.ofNat d.digits ++ List.replicate d.exponent.toNat '0' ++
      ['.', '0'] ++ after) (.float x) after := by
  obtain ⟨places, hplaces'⟩ := Int.eq_ofNat_of_zero_le hexponent
  have hnat : d.exponent.toNat = places := by omega
  have hzero : ∀ e ∈ List.replicate places 0, e < 10 := by
    intro e he
    rw [List.eq_of_mem_replicate he]
    decide
  have hwhole : ∀ e ∈ Numeral.digits 10 d.digits ++ List.replicate places 0, e < 10 := by
    intro e he
    rcases List.mem_append.1 he with he | he
    · exact Numeral.digits_lt (by decide) _ e he
    · exact hzero e he
  have hdigits := digits_map hwhole ('.' :: '0' :: after)
  have hfraction : Digits ('0' :: after) [0] after := digit_zero after
  have hvalue : Numeral.ofDigits 10
      (Numeral.digits 10 d.digits ++ List.replicate places 0 ++ [0]) =
        d.digits * 10 ^ (places + 1) := by
    rw [Numeral.ofDigits_append, Numeral.ofDigits_concat, Numeral.ofDigits_zeros,
      Numeral.ofDigits_digits 10 _ (by decide), List.length_replicate, Nat.pow_succ]
    ring
  refine ⟨Numeral.digits 10 d.digits ++ List.replicate places 0, some [0], none, _,
    after, ?_, .point hfraction, by simp, .absent after, ?_⟩
  · rw [List.map_append, List.map_replicate] at hdigits
    simpa [hnat, Numeral.ofNat, digitChar_zero] using hdigits
  · refine .double (by simp) ?_
    rw [Option.getD_some, hvalue]
    rw [hplaces'] at h
    exact (Binary64.ofDecimal?_point_zero negative d.digits (by omega)).trans h

/-- Digits with the point among them, and the exponent if there is one. -/
theorem unsigned_split (h : Binary64.ofDecimal? negative d.digits d.exponent = some x)
    (point : Nat) {exponent : Option Int} {text after : Text}
    (hexponent : Exponent text exponent after)
    (hplaces : exponent.getD 0 - ((Numeral.digits 10 d.digits).length - point : Nat) =
      d.exponent) :
    Unsigned negative ((Numeral.ofNat d.digits).take point ++
      '.' :: (Numeral.ofNat d.digits).drop point ++ text) (.float x) after := by
  have hlt := Numeral.digits_lt (by decide : 0 < 10) d.digits
  have htake : ∀ e ∈ (Numeral.digits 10 d.digits).take point, e < 10 := by
    intro e he
    exact hlt e (List.mem_of_mem_take he)
  have hdrop : ∀ e ∈ (Numeral.digits 10 d.digits).drop point, e < 10 := by
    intro e he
    exact hlt e (List.mem_of_mem_drop he)
  have hwhole := digits_map htake ('.' :: (Numeral.ofNat d.digits).drop point ++ text)
  have hfraction := digits_map hdrop text
  refine ⟨(Numeral.digits 10 d.digits).take point,
    some ((Numeral.digits 10 d.digits).drop point), exponent,
    '.' :: ((Numeral.ofNat d.digits).drop point ++ text), text, ?_, .point ?_, ?_,
    hexponent, names_of_append h 0 ?_ (by simp) ?_⟩
  · simpa [Numeral.ofNat, List.map_take] using hwhole
  · simpa [Numeral.ofNat, List.map_drop] using hfraction
  · rw [Option.getD_some, List.take_append_drop]
    exact Numeral.digits_ne_nil 10 d.digits
  · rw [Option.getD_some, List.take_append_drop]
    rfl
  · rwa [Option.getD_some, List.length_drop]

/-- Digits behind a zero, the point and further zeros. -/
theorem unsigned_behind (h : Binary64.ofDecimal? negative d.digits d.exponent = some x)
    {zeros : Nat}
    (hzeros : -(zeros : Int) = (Numeral.digits 10 d.digits).length + d.exponent)
    (after : Text) :
    Unsigned negative ('0' :: '.' :: List.replicate zeros '0' ++ Numeral.ofNat d.digits ++
      after) (.float x) after := by
  have hlt : ∀ e ∈ List.replicate zeros 0 ++ Numeral.digits 10 d.digits, e < 10 := by
    intro e he
    rcases List.mem_append.1 he with he | he
    · rw [List.eq_of_mem_replicate he]
      decide
    · exact Numeral.digits_lt (by decide) _ e he
  have hfraction := digits_map hlt after
  refine ⟨[0], some (List.replicate zeros 0 ++ Numeral.digits 10 d.digits), none,
    '.' :: (List.replicate zeros '0' ++ Numeral.ofNat d.digits ++ after), after,
      digit_zero _,
    .point ?_, by simp, .absent after, names_of_append h (zeros + 1) ?_ (by simp) ?_⟩
  · rw [List.map_append, List.map_replicate] at hfraction
    simpa [Numeral.ofNat, digitChar_zero] using hfraction
  · simp [List.replicate_succ]
  · simp only [Option.getD_none, Option.getD_some, List.length_append,
      List.length_replicate]
    omega

theorem exponent_ofInt (power : Int) (after : Text) :
    Exponent ('e' :: (if power < 0 then '-' else '+') :: Numeral.ofNat power.natAbs ++
      after) (some power) after := by
  have hvalue := Numeral.ofDigits_digits 10 power.natAbs (by decide)
  have hdigits := digits_ofNat power.natAbs after
  have hne := Numeral.digits_ne_nil 10 power.natAbs
  by_cases hpower : power < 0
  · have hexponent := Exponent.mark (Or.inl rfl) (.minus _) hdigits hne
    have hsigned : signed true (Numeral.digits 10 power.natAbs) = power := by
      rw [signed, if_pos rfl, hvalue]
      omega
    rw [hsigned] at hexponent
    rwa [if_pos hpower]
  · have hexponent := Exponent.mark (Or.inl rfl) (.plus _) hdigits hne
    have hsigned : signed false (Numeral.digits 10 power.natAbs) = power := by
      rw [signed, if_neg (by decide), hvalue]
      omega
    rw [hsigned] at hexponent
    rwa [if_neg hpower]

/-- One digit, the others behind the point if there are any, and the exponent. -/
theorem unsigned_exponent (h : Binary64.ofDecimal? negative d.digits d.exponent = some x)
    {power : Int} (hpower : power = (Numeral.digits 10 d.digits).length + d.exponent - 1)
    {text after : Text} (htext : Exponent text (some power) after) :
    Unsigned negative ((if (Numeral.ofNat d.digits).length ≤ 1 then Numeral.ofNat d.digits
      else (Numeral.ofNat d.digits).take 1 ++ '.' :: (Numeral.ofNat d.digits).drop 1) ++
        text) (.float x) after := by
  have hlength : (Numeral.ofNat d.digits).length = (Numeral.digits 10 d.digits).length :=
    List.length_map ..
  have hne := Numeral.digits_ne_nil 10 d.digits
  have hpos := List.length_pos_iff.2 hne
  by_cases hone : (Numeral.ofNat d.digits).length ≤ 1
  · rw [if_pos hone]
    refine ⟨Numeral.digits 10 d.digits, none, some power, text, text, digits_ofNat _ text,
      .absent text, by simpa using hne, htext, names_of_append h 0 (by simp) (by simp) ?_⟩
    simp only [Option.getD_none, Option.getD_some, List.length_nil]
    omega
  · rw [if_neg hone]
    apply unsigned_split h 1 htext
    rw [Option.getD_some]
    omega

/-- However a decimal is laid out, it is read as the double that it names. -/
theorem unsigned_toText (h : Binary64.ofDecimal? negative d.digits d.exponent = some x)
    (after : Text) : Unsigned negative (d.toText ++ after) (.float x) after := by
  have hlength : (Numeral.ofNat d.digits).length = (Numeral.digits 10 d.digits).length :=
    List.length_map ..
  have hpos := List.length_pos_iff.2 (Numeral.digits_ne_nil 10 d.digits)
  unfold Decimal.toText
  dsimp only
  split
  · rename_i hwhole
    exact unsigned_whole h hwhole.1 (by omega) after
  · rename_i hwhole
    split
    · rename_i hpoint
      apply unsigned_split h _ (.absent after)
      rw [Option.getD_none]
      omega
    · split
      · rename_i hbehind
        exact unsigned_behind h (by omega) after
      · rw [List.append_assoc]
        refine unsigned_exponent h ?_ (exponent_ofInt _ after)
        rw [hlength]

/-- A sign and digits that stand for an integer of 64 bits are that integer. -/
theorem numberText_of_signed {negative : Bool} {ds : List Nat} {i : Int}
    {text text₁ after : Text} (hsign : Sign text negative text₁)
    (hdigits : Digits text₁ ds after) (hds : ds ≠ []) (hvalue : signed negative ds = i)
    (hi : -0x8000000000000000 ≤ i ∧ i < 0x10000000000000000) :
    NumberText text (.integer i hi) after := by
  subst hvalue
  exact .intro hsign hdigits (.absent after) (by simpa using hds) (.absent after)
    (.integer hi)

theorem numberText_ofInt {i : Int}
    (hi : -0x8000000000000000 ≤ i ∧ i < 0x10000000000000000) (after : Text) :
    NumberText (Numeral.ofInt i ++ after) (.integer i hi) after := by
  obtain ⟨negative, hsign, hvalue⟩ := sign_ofInt i after
  exact numberText_of_signed hsign (digits_ofNat _ after)
    (Numeral.digits_ne_nil 10 _) hvalue hi

/-- A number is read from what it is written as, whatever follows. -/
theorem numberText_toText (x : Number) (after : Text) :
    NumberText (x.toText ++ after) x after := by
  cases x with
  | integer i hi => exact numberText_ofInt hi after
  | float x =>
      obtain ⟨whole, fraction, exponent, text₁, text₂, hwhole, hfraction, hdigit,
        hexponent, hnames⟩ := unsigned_toText x.ofDecimal?_shortest after
      cases hx : x.negative with
      | false =>
          rw [hx] at hnames
          have htext : (Number.float x).toText = x.shortest.toText := by
            simp [Number.toText, Binary64.toText, hx]
          rw [htext]
          exact .intro (.absent _) hwhole hfraction hdigit hexponent hnames
      | true =>
          rw [hx] at hnames
          have htext : (Number.float x).toText = '-' :: x.shortest.toText := by
            simp [Number.toText, Binary64.toText, hx]
          rw [htext]
          exact .intro (.minus _) hwhole hfraction hdigit hexponent hnames

end JsonSelect.Path
