/-
The value of a double, and the double that an integer is taken as: no other is
nearer to the integer.
-/
import JsonSelect.Number.Basic
import JsonSelect.Proofs.Number.ReadsBack
import Mathlib

namespace JsonSelect.Binary64

/-! Values -/

/-- The number that a double is. -/
def value (x : Binary64) : ℚ :=
  (if x.negative then -1 else 1) * x.mantissa * 2 ^ ((x.scale : ℤ) - fineness)

theorem magnitude_eq (x : Binary64) : x.magnitude = x.mantissa * 2 ^ x.scale := by
  rw [magnitude, Nat.shiftLeft_eq]

theorem abs_units (x : Binary64) : |x.units| = x.magnitude := by
  rw [units]
  split <;> simp

theorem value_eq_units_div (x : Binary64) : x.value = x.units / 2 ^ fineness := by
  rw [value, units, magnitude_eq, zpow_sub₀ two_ne_zero, zpow_natCast, zpow_natCast]
  split <;> push_cast <;> ring

/-- A map that keeps an order keeps its comparison. -/
theorem compare_strictMono {α β : Type} [LinearOrder α] [LinearOrder β] {f : α → β}
    (hf : StrictMono f) (a b : α) : compare (f a) (f b) = compare a b := by
  rw [← cmp_eq_compare, ← cmp_eq_compare, hf.cmp_map_eq]

theorem cmp_eq_compare_value (x y : Binary64) : x.cmp y = compare x.value y.value := by
  have hmono : StrictMono fun units : Int => (units : ℚ) / 2 ^ fineness := by
    intro units units' hlt
    exact div_lt_div_of_pos_right (Int.cast_lt.2 hlt) (by positivity)
  rw [value_eq_units_div, value_eq_units_div]
  exact (compare_strictMono hmono x.units y.units).symm

/-! The nearest multiple -/

/-- A quotient is rounded down if at most half is lost, and up if at most
half is added. -/
theorem roundHalfEven_cases (num den : Nat) :
    roundHalfEven num den = num / den ∧ 2 * (num % den) ≤ den ∨
      roundHalfEven num den = num / den + 1 ∧ den ≤ 2 * (num % den) := by
  rcases lt_trichotomy (2 * (num % den)) den with h | h | h
  · have hdown : roundHalfEven num den = num / den := by
      simp only [roundHalfEven, compare_lt_iff_lt.2 h]
    exact Or.inl ⟨hdown, h.le⟩
  · rcases roundHalfEven_eq_or num den with hdown | hup
    · exact Or.inl ⟨hdown, h.le⟩
    · exact Or.inr ⟨hup, h.ge⟩
  · have hup : roundHalfEven num den = num / den + 1 := by
      simp only [roundHalfEven, compare_gt_iff_gt.2 h]
    exact Or.inr ⟨hup, h.le⟩

/-- Rounding to a multiple changes a number by at most half of what lies
between multiples. -/
theorem two_mul_abs_sub_roundHalfEven_le (num : Nat) {den : Nat} (hden : 0 < den) :
    2 * |(num : ℤ) - roundHalfEven num den * den| ≤ den := by
  have hdiv : (den : ℤ) * (num / den : ℕ) + (num % den : ℕ) = num := by
    exact_mod_cast Nat.div_add_mod num den
  have hmod : num % den < den := Nat.mod_lt num hden
  rcases roundHalfEven_cases num den with ⟨hround, hhalf⟩ | ⟨hround, hhalf⟩
  · have hlost : (num : ℤ) - roundHalfEven num den * den = (num % den : ℕ) := by
      rw [hround, ← hdiv]
      ring
    rw [hlost, abs_of_nonneg (by omega)]
    omega
  · have hadded : (num : ℤ) - roundHalfEven num den * den = (num % den : ℕ) - den := by
      rw [hround, ← hdiv]
      push_cast
      ring
    rw [hadded, abs_of_neg (by omega)]
    omega

theorem roundHalfEven_mul_of_dvd {num den : Nat} (hden : 0 < den) (hdvd : den ∣ num) :
    roundHalfEven num den * den = num := by
  obtain ⟨q, rfl⟩ := hdvd
  rw [Nat.mul_comm den q, roundHalfEven_of_dvd q hden]

/-- No multiple is nearer than the one that rounding gives. -/
theorem abs_sub_roundHalfEven_le (num : Nat) {den : Nat} (hden : 0 < den) {n : Nat}
    (hn : den ∣ n) : |(num : ℤ) - roundHalfEven num den * den| ≤ |(num : ℤ) - n| := by
  obtain ⟨k, rfl⟩ := hn
  have hhalf := two_mul_abs_sub_roundHalfEven_le num hden
  by_cases hk : k = roundHalfEven num den
  · rw [hk, Nat.cast_mul, mul_comm (den : ℤ)]
  · -- Another multiple is a whole step away from that one.
    have hstep : (den : ℤ) ≤ |(roundHalfEven num den * den : ℤ) - (den * k : ℕ)| := by
      have hone : 1 ≤ |(roundHalfEven num den : ℤ) - k| := Int.one_le_abs (by omega)
      have hfactor : (roundHalfEven num den * den : ℤ) - (den * k : ℕ) =
          (roundHalfEven num den - k) * den := by
        push_cast
        ring
      rw [hfactor, abs_mul, Nat.abs_cast]
      exact le_mul_of_one_le_left (by omega) hone
    have htriangle := abs_sub_le (roundHalfEven num den * den : ℤ) num (den * k : ℕ)
    rw [abs_sub_comm (roundHalfEven num den * den : ℤ) num] at htriangle
    omega

/-! The nearest double -/

/-- What is rounded, and on what scale, when a double is chosen for a whole number. -/
theorem magnitude_of_ofRatio? {negative : Bool} {n : Nat} {x : Binary64}
    (hx : ofRatio? negative n 1 = some x) :
    x.magnitude = roundHalfEven (n <<< fineness) (1 <<< ((n <<< fineness).log2 - 52)) *
      1 <<< ((n <<< fineness).log2 - 52) := by
  simp only [ofRatio?, Nat.div_one] at hx
  generalize hscale : (n <<< fineness).log2 - 52 = scale at hx ⊢
  rw [magnitude_eq]
  split at hx
  · rename_i hcarry
    obtain ⟨-, hmantissa, hscale'⟩ := ofParts?_eq_some_iff.1 hx
    rw [hcarry, hmantissa, hscale', Nat.one_shiftLeft, Nat.one_shiftLeft,
      Nat.one_shiftLeft, ← pow_add, ← pow_add, ← Nat.add_assoc, Nat.add_right_comm]
  · obtain ⟨-, hmantissa, hscale'⟩ := ofParts?_eq_some_iff.1 hx
    rw [hmantissa, hscale', Nat.one_shiftLeft]

theorem ofRatio?_ofInt (i : Int) (h : i.natAbs < 1 <<< 64) :
    ofRatio? (i < 0) i.natAbs 1 = some (ofInt i h) :=
  (Option.some_get _).symm

theorem negative_of_ofRatio? {negative : Bool} {num den : Nat} {x : Binary64}
    (hx : ofRatio? negative num den = some x) : x.negative = negative := by
  simp only [ofRatio?] at hx
  split at hx
  · exact (ofParts?_eq_some_iff.1 hx).1
  · exact (ofParts?_eq_some_iff.1 hx).1

/-- A double is on the grid of a scale, or below all of 53 bits there. -/
theorem dvd_magnitude_or_lt (x : Binary64) (scale : Nat) :
    2 ^ scale ∣ x.magnitude ∨ x.magnitude < 2 ^ (52 + scale) := by
  rw [magnitude_eq]
  rcases Nat.lt_or_ge x.scale scale with hlt | hge
  · have hmantissa := x.mantissa_lt
    rw [Nat.one_shiftLeft] at hmantissa
    have hpow : 2 ^ 53 * 2 ^ x.scale ≤ 2 ^ (52 + scale) := by
      rw [← Nat.pow_add]
      exact Nat.pow_le_pow_right (by decide) (by omega)
    exact Or.inr
      ((Nat.mul_lt_mul_of_pos_right hmantissa (Nat.two_pow_pos _)).trans_le hpow)
  · exact Or.inl ((pow_dvd_pow 2 hge).mul_left _)

/-- On the grid that a whole number is rounded to, nothing is nearer; and what is off
the grid is below a point of it that is nearer itself. -/
theorem abs_sub_magnitude_le {negative : Bool} {n : Nat} {x : Binary64}
    (hx : ofRatio? negative n 1 = some x) (y : Binary64) :
    |((n <<< fineness : ℕ) : ℤ) - x.magnitude| ≤
        |((n <<< fineness : ℕ) : ℤ) - y.magnitude| := by
  rw [magnitude_of_ofRatio? hx]
  generalize n <<< fineness = total
  rw [Nat.one_shiftLeft]
  have hnearest {m : Nat} (hm : 2 ^ (total.log2 - 52) ∣ m) :=
    abs_sub_roundHalfEven_le total (Nat.two_pow_pos (total.log2 - 52)) hm
  push_cast at hnearest ⊢
  by_cases hgrid : 2 ^ (total.log2 - 52) ∣ y.magnitude
  · exact hnearest hgrid
  · have hlt := (dvd_magnitude_or_lt y (total.log2 - 52)).resolve_left hgrid
    have hscale : total.log2 - 52 ≠ 0 := by
      intro hzero
      rw [hzero, pow_zero] at hgrid
      exact hgrid (one_dvd _)
    have htotal : total ≠ 0 := by
      rintro rfl
      exact hscale (by decide)
    have hle : 2 ^ (52 + (total.log2 - 52)) ≤ total := by
      have := Nat.log2_self_le htotal
      rwa [show 52 + (total.log2 - 52) = total.log2 by omega]
    have hbelow := hnearest (pow_dvd_pow 2 (Nat.le_add_left (total.log2 - 52) 52))
    refine hbelow.trans ?_
    rw [abs_of_nonneg (by omega), abs_of_nonneg (by omega)]
    omega

/-- The distance to an integer is that of the magnitudes if the signs agree. -/
theorem abs_sub_units_ofInt (i : Int) (h : i.natAbs < 1 <<< 64) :
    |i * 2 ^ fineness - (ofInt i h).units| =
      |((i.natAbs <<< fineness : ℕ) : ℤ) - (ofInt i h).magnitude| := by
  rw [units, negative_of_ofRatio? (ofRatio?_ofInt i h), Nat.shiftLeft_eq]
  push_cast
  rcases lt_or_ge i 0 with hneg | hnonneg
  · have hflip : i * 2 ^ fineness - -((ofInt i h).magnitude : ℤ) =
        -(-i * 2 ^ fineness - (ofInt i h).magnitude) := by
      ring
    rw [if_pos (decide_eq_true hneg), abs_of_neg hneg, hflip, abs_neg]
  · rw [if_neg (by simpa using hnonneg), abs_of_nonneg hnonneg]

/-- No double is nearer to an integer than the one it is taken as, in units. -/
theorem abs_sub_units_ofInt_le (i : Int) (h : i.natAbs < 1 <<< 64) (y : Binary64) :
    |i * 2 ^ fineness - (ofInt i h).units| ≤ |i * 2 ^ fineness - y.units| := by
  have hmagnitude : ((i.natAbs <<< fineness : ℕ) : ℤ) = |i * 2 ^ fineness| := by
    rw [Nat.shiftLeft_eq, abs_mul, abs_of_pos (by positivity : (0 : ℤ) < 2 ^ fineness)]
    push_cast
    rfl
  calc |i * 2 ^ fineness - (ofInt i h).units|
      = |((i.natAbs <<< fineness : ℕ) : ℤ) - (ofInt i h).magnitude| :=
        abs_sub_units_ofInt i h
    _ ≤ |((i.natAbs <<< fineness : ℕ) : ℤ) - y.magnitude| :=
        abs_sub_magnitude_le (ofRatio?_ofInt i h) y
    _ = |(|i * 2 ^ fineness|) - (|y.units|)| := by rw [hmagnitude, abs_units]
    _ ≤ |i * 2 ^ fineness - y.units| := abs_abs_sub_abs_le _ _

theorem abs_sub_value (i : Int) (y : Binary64) :
    |(i : ℚ) - y.value| = (|i * 2 ^ fineness - y.units| : ℤ) / 2 ^ fineness := by
  have hunits : (i : ℚ) - y.value = (i * 2 ^ fineness - y.units : ℤ) / 2 ^ fineness := by
    rw [value_eq_units_div]
    push_cast
    field_simp
  rw [hunits, abs_div, abs_of_pos (by positivity : (0 : ℚ) < 2 ^ fineness), Int.cast_abs]

/-- No double is nearer to an integer than the one it is taken as. -/
theorem abs_sub_value_ofInt_le (i : Int) (h : i.natAbs < 1 <<< 64) (y : Binary64) :
    |(i : ℚ) - (ofInt i h).value| ≤ |(i : ℚ) - y.value| := by
  rw [abs_sub_value, abs_sub_value, div_le_div_iff_of_pos_right (by positivity),
    Int.cast_le]
  exact abs_sub_units_ofInt_le i h y

/-! Order -/

/-- A double below the one that an integer is taken as is below the integer. -/
theorem value_lt_of_lt_ofInt {i : Int} {h : i.natAbs < 1 <<< 64} {y : Binary64}
    (hlt : y.value < (ofInt i h).value) : y.value < i := by
  by_contra! hle
  have hnear := abs_sub_value_ofInt_le i h y
  rw [abs_sub_comm, abs_of_nonneg (by linarith), abs_sub_comm,
    abs_of_nonneg (by linarith)] at hnear
  linarith

/-- A double above the one that an integer is taken as is above the integer. -/
theorem lt_value_of_ofInt_lt {i : Int} {h : i.natAbs < 1 <<< 64} {y : Binary64}
    (hlt : (ofInt i h).value < y.value) : (i : ℚ) < y.value := by
  by_contra! hle
  have hnear := abs_sub_value_ofInt_le i h y
  rw [abs_of_nonneg (by linarith), abs_of_nonneg (by linarith)] at hnear
  linarith

theorem le_value_ofInt {i : Int} {h : i.natAbs < 1 <<< 64} {y : Binary64}
    (hle : y.value ≤ i) :
    y.value ≤ (ofInt i h).value :=
  not_lt.1 fun hlt => absurd (lt_value_of_ofInt_lt hlt) (not_lt.2 hle)

theorem value_ofInt_le {i : Int} {h : i.natAbs < 1 <<< 64} {y : Binary64}
    (hle : i ≤ y.value) :
    (ofInt i h).value ≤ y.value :=
  not_lt.1 fun hlt => absurd (value_lt_of_lt_ofInt hlt) (not_lt.2 hle)

/-! Exact integers -/

/-- An integer of 53 bits is on the grid that it is rounded to. -/
theorem two_pow_dvd_of_le {n : Nat} (hn : n ≤ 2 ^ 53) :
    2 ^ ((n <<< fineness).log2 - 52) ∣ n <<< fineness := by
  rw [Nat.shiftLeft_eq]
  rcases hn.lt_or_eq with hlt | rfl
  · by_cases hzero : n = 0
    · rw [hzero, Nat.zero_mul]
      exact dvd_zero _
    · have hlog : (n * 2 ^ fineness).log2 < 53 + fineness := by
        rw [Nat.log2_lt (Nat.mul_ne_zero hzero (Nat.two_pow_pos _).ne'), Nat.pow_add]
        exact Nat.mul_lt_mul_of_pos_right hlt (Nat.two_pow_pos _)
      exact (pow_dvd_pow 2 (by omega)).mul_left n
  · rw [← pow_add, Nat.log2_two_pow]
    exact pow_dvd_pow 2 (Nat.sub_le _ _)

theorem value_ofInt_of_natAbs_le {i : Int} {h : i.natAbs < 1 <<< 64}
    (hi : i.natAbs ≤ 2 ^ 53) :
    (ofInt i h).value = i := by
  have hexact : (ofInt i h).magnitude = i.natAbs <<< fineness := by
    rw [magnitude_of_ofRatio? (ofRatio?_ofInt i h), Nat.one_shiftLeft]
    exact roundHalfEven_mul_of_dvd (Nat.two_pow_pos _) (two_pow_dvd_of_le hi)
  have hdistance : |(i : ℚ) - (ofInt i h).value| = 0 := by
    rw [abs_sub_value, abs_sub_units_ofInt, hexact, sub_self, abs_zero, Int.cast_zero,
      zero_div]
  exact (sub_eq_zero.1 (abs_eq_zero.1 hdistance)).symm

/-- Past 53 bits an integer is not rounded back into them. -/
theorem le_abs_value_ofInt {i : Int} {h : i.natAbs < 1 <<< 64} (hi : 2 ^ 53 ≤ i.natAbs) :
    2 ^ 53 ≤ |(ofInt i h).value| := by
  have hpositive : (ofInt (2 ^ 53) (by decide)).value = 2 ^ 53 :=
    (value_ofInt_of_natAbs_le (by decide)).trans (by norm_num)
  have hnegative : (ofInt (-2 ^ 53) (by decide)).value = -2 ^ 53 :=
    (value_ofInt_of_natAbs_le (by decide)).trans (by norm_num)
  rw [le_abs']
  rcases lt_or_ge i 0 with hneg | hnonneg
  · left
    rw [← hnegative]
    apply value_ofInt_le
    rw [hnegative]
    exact_mod_cast (by omega : i ≤ -2 ^ 53)
  · right
    rw [← hpositive]
    apply le_value_ofInt
    rw [hpositive]
    exact_mod_cast (by omega : 2 ^ 53 ≤ i)

end JsonSelect.Binary64
