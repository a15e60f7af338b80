/-
The decimal that a double is written as names that double when it is read.  The
grids give a decimal only if it does, and past them the exact value stands,
which needs no rounding.
-/
import JsonSelect.Number.Shortest
import Mathlib

namespace JsonSelect.Binary64

/-! Common factors -/

theorem compare_mul_right (a b : Nat) {k : Nat} (hk : 0 < k) :
    compare (a * k) (b * k) = compare a b := by
  rcases lt_trichotomy a b with h | h | h
  · rw [compare_lt_iff_lt.2 h, compare_lt_iff_lt.2 (Nat.mul_lt_mul_of_pos_right h hk)]
  · rw [compare_eq_iff_eq.2 h, compare_eq_iff_eq.2 (congrArg (· * k) h)]
  · rw [compare_gt_iff_gt.2 h, compare_gt_iff_gt.2 (Nat.mul_lt_mul_of_pos_right h hk)]

/-- A common factor does not change how a quotient is rounded. -/
theorem roundHalfEven_mul_right (num den : Nat) {k : Nat} (hk : 0 < k) :
    roundHalfEven (num * k) (den * k) = roundHalfEven num den := by
  have hquotient : num * k / (den * k) = num / den := Nat.mul_div_mul_right num den hk
  have hremainder : 2 * (num * k % (den * k)) = 2 * (num % den) * k := by
    rw [Nat.mul_mod_mul_right, Nat.mul_assoc]
  simp only [roundHalfEven, hquotient, hremainder, compare_mul_right _ _ hk]

theorem ofRatio?_mul_right (negative : Bool) (num den : Nat) {k : Nat} (hk : 0 < k) :
    ofRatio? negative (num * k) (den * k) = ofRatio? negative num den := by
  have htotal : (num * k) <<< fineness = (num <<< fineness) * k := by
    rw [Nat.shiftLeft_eq, Nat.shiftLeft_eq, Nat.mul_right_comm]
  have hquotient : (num <<< fineness) * k / (den * k) = num <<< fineness / den :=
    Nat.mul_div_mul_right _ _ hk
  have hscaled (scale : Nat) : (den * k) <<< scale = (den <<< scale) * k := by
    rw [Nat.shiftLeft_eq, Nat.shiftLeft_eq, Nat.mul_right_comm]
  simp only [ofRatio?, htotal, hquotient, hscaled, roundHalfEven_mul_right _ _ hk]

/-! The exact value -/

/-- The scale of a double is that of its magnitude. -/
theorem log2_magnitude (x : Binary64) : x.magnitude.log2 - 52 = x.scale := by
  have hlt := x.mantissa_lt
  rw [Nat.one_shiftLeft] at hlt
  rcases x.normal with hscale | hmantissa
  · rw [magnitude, hscale, Nat.shiftLeft_zero]
    by_cases hzero : x.mantissa = 0
    · simp [hzero]
    · have := (Nat.log2_lt hzero).2 hlt
      omega
  · rw [Nat.one_shiftLeft] at hmantissa
    have hzero : x.magnitude ≠ 0 := by
      rw [magnitude, Nat.shiftLeft_eq]
      have := Nat.mul_pos (lt_of_lt_of_le (Nat.two_pow_pos 52) hmantissa)
        (Nat.two_pow_pos x.scale)
      omega
    have hlow : 52 + x.scale ≤ x.magnitude.log2 := by
      rw [Nat.le_log2 hzero, magnitude, Nat.shiftLeft_eq, Nat.pow_add]
      exact Nat.mul_le_mul_right _ hmantissa
    have hhigh : x.magnitude.log2 < 53 + x.scale := by
      rw [Nat.log2_lt hzero, magnitude, Nat.shiftLeft_eq, Nat.pow_add]
      exact Nat.mul_lt_mul_of_pos_right hlt (Nat.two_pow_pos _)
    omega

theorem roundHalfEven_of_dvd (q : Nat) {den : Nat} (hden : 0 < den) :
    roundHalfEven (q * den) den = q := by
  have hquotient : q * den / den = q := Nat.mul_div_cancel q hden
  have hremainder : 2 * (q * den % den) = 0 := by
    rw [Nat.mul_mod_left]
  have hcompare : compare 0 den = .lt := compare_lt_iff_lt.2 hden
  simp only [roundHalfEven, hquotient, hremainder, hcompare]

/-- A double is the one nearest to its own value. -/
theorem ofRatio?_magnitude (x : Binary64) :
    ofRatio? x.negative x.magnitude (1 <<< fineness) = some x := by
  have hpos : 0 < 1 <<< fineness := by
    rw [Nat.one_shiftLeft]
    exact Nat.two_pow_pos _
  have htotal : x.magnitude <<< fineness = x.magnitude * 1 <<< fineness := by
    rw [Nat.one_shiftLeft, Nat.shiftLeft_eq]
  have hquotient : x.magnitude * 1 <<< fineness / 1 <<< fineness = x.magnitude :=
    Nat.mul_div_cancel _ hpos
  have hmagnitude : x.magnitude * 1 <<< fineness =
      x.mantissa * (1 <<< fineness <<< x.scale) := by
    rw [magnitude, Nat.shiftLeft_eq x.mantissa, Nat.shiftLeft_eq (1 <<< fineness)]
    ring
  have hround : roundHalfEven (x.magnitude * 1 <<< fineness)
      (1 <<< fineness <<< x.scale) = x.mantissa := by
    rw [hmagnitude]
    apply roundHalfEven_of_dvd
    rw [Nat.shiftLeft_eq]
    exact Nat.mul_pos hpos (Nat.two_pow_pos _)
  have hcarry : x.mantissa ≠ 1 <<< 53 := Nat.ne_of_lt x.mantissa_lt
  simp only [ofRatio?, htotal, hquotient, log2_magnitude, hround, if_neg hcarry]
  exact ofParts?_eq_some_iff.2 ⟨rfl, rfl, rfl⟩

theorem eq_zero_of_isZero {x : Binary64} (h : x.mantissa = 0) : x = zero x.negative := by
  obtain ⟨negative, mantissa, scale, hmantissa, hscale, hnormal⟩ := x
  dsimp only at h
  subst h
  have hscale' : scale = 0 := hnormal.resolve_right (by decide)
  subst hscale'
  rfl

theorem le_log2_mul_pow {m : Nat} (hm : m ≠ 0) (n : Nat) : n ≤ (m * 5 ^ n).log2 := by
  have hpow : 2 ^ n ≤ 5 ^ n := Nat.pow_le_pow_left (by decide) n
  have hpos : 0 < 5 ^ n := Nat.pow_pos (by decide)
  have hle : 5 ^ n ≤ m * 5 ^ n := Nat.le_mul_of_pos_left _ (Nat.pos_of_ne_zero hm)
  rw [Nat.le_log2 (by omega)]
  exact hpow.trans hle

/-- Places behind the point divide the digits, unless they are too many to be
told from none. -/
theorem ofDecimal?_neg (negative : Bool) {digits places : Nat} (hdigits : digits ≠ 0)
    (hplaces : 0 < places) (hlog : places ≤ digits.log2 + 400) :
    ofDecimal? negative digits (-places) = ofRatio? negative digits (10 ^ places) := by
  have hnat : (-(-(places : Int))).toNat = places := by simp
  rw [ofDecimal?, if_neg hdigits, if_neg (by omega), if_neg (by omega),
    if_neg (by omega), hnat, Nat.pow_eq]

/-- Units are decimal with as many places as there are halvings. -/
theorem ofDecimal?_magnitude (x : Binary64) :
    ofDecimal? x.negative (x.magnitude * Nat.pow 5 fineness) (-fineness) = some x := by
  rw [Nat.pow_eq]
  by_cases hzero : x.magnitude = 0
  · have hmantissa : x.mantissa = 0 := by
      rw [magnitude, Nat.shiftLeft_eq] at hzero
      exact (Nat.mul_eq_zero.1 hzero).resolve_right (Nat.two_pow_pos x.scale).ne'
    rw [hzero, Nat.zero_mul, ofDecimal?, if_pos rfl, ← eq_zero_of_isZero hmantissa]
  · have hlog := le_log2_mul_pow hzero fineness
    have hpow : 0 < 5 ^ fineness := Nat.pow_pos (by decide)
    have hdigits : x.magnitude * 5 ^ fineness ≠ 0 := Nat.mul_ne_zero hzero hpow.ne'
    have hten : 10 ^ fineness = (1 <<< fineness) * 5 ^ fineness := by
      rw [Nat.one_shiftLeft, ← Nat.mul_pow]
    rw [ofDecimal?_neg x.negative hdigits (by decide) (Nat.le_add_right_of_le hlog), hten,
      ofRatio?_mul_right _ _ _ hpow]
    exact x.ofRatio?_magnitude

/-! The shortest decimal -/

theorem readsBack_of_onGrid? {x : Binary64} {exponent : Int} {d : Decimal}
    (h : x.onGrid? exponent = some d) : x.readsBack d = true := by
  unfold onGrid? at h
  dsimp only at h
  split at h
  · rename_i hbelow habove
    split at h
    · exact Option.some.inj h ▸ hbelow
    · exact Option.some.inj h ▸ habove
    · obtain rfl := Option.some.inj h
      split
      · exact hbelow
      · exact habove
  · rename_i hbelow habove
    exact Option.some.inj h ▸ hbelow
  · rename_i hbelow habove
    exact Option.some.inj h ▸ habove
  · cases h

/-- The decimal that a double is written as names it. -/
theorem ofDecimal?_shortest (x : Binary64) :
    ofDecimal? x.negative x.shortest.digits x.shortest.exponent = some x := by
  unfold shortest
  split
  · rename_i hzero
    have hmantissa : x.mantissa = 0 := by simpa [isZero] using hzero
    rw [ofDecimal?, if_pos rfl, ← eq_zero_of_isZero hmantissa]
  · dsimp only
    cases hgrid :
      ((List.range 25).map fun (i : Nat) => x.coarsest - i).findSome? x.onGrid? with
    | none => exact x.ofDecimal?_magnitude
    | some d =>
        obtain ⟨exponent, -, hd⟩ := List.exists_of_findSome?_eq_some hgrid
        have hreads := readsBack_of_onGrid? hd
        exact of_decide_eq_true hreads

/-- A whole number of few places may be written with a point and a zero. -/
theorem ofDecimal?_point_zero (negative : Bool) (digits : Nat) {places : Nat}
    (hplaces : places ≤ 400) :
    ofDecimal? negative (digits * 10 ^ (places + 1)) (-1) =
      ofDecimal? negative digits places := by
  by_cases hzero : digits = 0
  · rw [hzero, Nat.zero_mul, ofDecimal?, if_pos rfl, ofDecimal?, if_pos rfl]
  · have hdigits : digits * 10 ^ (places + 1) ≠ 0 :=
      Nat.mul_ne_zero hzero (Nat.pow_pos (by decide)).ne'
    have hpower : digits * 10 ^ (places + 1) = digits * 10 ^ places * 10 := by
      rw [Nat.pow_succ, Nat.mul_assoc]
    have hwhole :
        ofDecimal? negative digits places =
          ofRatio? negative (digits * 10 ^ places) 1 := by
      rw [ofDecimal?, if_neg hzero, if_neg (by omega), if_neg (by omega),
        if_pos (by omega), Int.toNat_natCast, Nat.pow_eq]
    rw [hwhole,
      ← ofRatio?_mul_right negative (digits * 10 ^ places) 1 (by decide : 0 < 10),
      ← hpower]
    exact ofDecimal?_neg negative hdigits Nat.one_pos (Nat.le_add_left_of_le (by decide))

end JsonSelect.Binary64
