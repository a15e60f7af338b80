/-
Finite double precision values as exact integers.  Every such value is a whole
number of units of 2^-1074, so reading, rounding and comparing need no floating
point arithmetic.
-/

namespace JsonSelect

/-- A finite double: `mantissa * 2 ^ scale` units of `2 ^ -1074`, with a sign.  Values
below `2 ^ 52` units have scale zero, and all others a mantissa of 53 bits, so each
double has one such form and zero has two, one per sign. -/
structure Binary64 where
  negative : Bool
  mantissa : Nat
  scale : Nat
  mantissa_lt : mantissa < 1 <<< 53
  scale_le : scale ≤ 2045
  normal : scale = 0 ∨ 1 <<< 52 ≤ mantissa
deriving DecidableEq

namespace Binary64

/-- Doubles are whole numbers of units of `2 ^ -fineness`. -/
def fineness : Nat := 1074

/-- The distance from zero, in units of `2 ^ -1074`. -/
def magnitude (x : Binary64) : Nat :=
  x.mantissa <<< x.scale

/-- The value, in units of `2 ^ -1074`. -/
def units (x : Binary64) : Int :=
  if x.negative then -x.magnitude else x.magnitude

def zero (negative : Bool) : Binary64 :=
  ⟨negative, 0, 0, by decide, by decide, Or.inl rfl⟩

def isZero (x : Binary64) : Bool :=
  x.mantissa == 0

/-- The double of the given parts, or none where they are out of range. -/
def ofParts? (negative : Bool) (mantissa scale : Nat) : Option Binary64 :=
  if h : mantissa < 1 <<< 53 ∧ scale ≤ 2045 ∧ (scale = 0 ∨ 1 <<< 52 ≤ mantissa) then
    some ⟨negative, mantissa, scale, h.1, h.2.1, h.2.2⟩
  else
    none

/-- The whole number nearest to a quotient.  A tie goes to the even neighbour. -/
def roundHalfEven (num den : Nat) : Nat :=
  let quotient := num / den
  match compare (2 * (num % den)) den with
  | .lt => quotient
  | .gt => quotient + 1
  | .eq => if quotient % 2 = 0 then quotient else quotient + 1

/-- The double nearest to `num / den`, or none past the largest one. -/
def ofRatio? (negative : Bool) (num den : Nat) : Option Binary64 :=
  let total := num <<< fineness
  let scale := (total / den).log2 - 52
  let mantissa := roundHalfEven total (den <<< scale)
  if mantissa = 1 <<< 53 then ofParts? negative (1 <<< 52) (scale + 1)
  else ofParts? negative mantissa scale

/-- The double nearest to `digits * 10 ^ exponent`, or none past the largest one.
Exponents beyond 400 places from the digits are settled without computing the power:
such a value overflows or vanishes. -/
def ofDecimal? (negative : Bool) (digits : Nat) (exponent : Int) : Option Binary64 :=
  if digits = 0 then some (zero negative)
  else if 400 < exponent then none
  else if (digits.log2 : Int) + 400 < -exponent then some (zero negative)
  else if 0 ≤ exponent then ofRatio? negative (digits * Nat.pow 10 exponent.toNat) 1
  else ofRatio? negative digits (Nat.pow 10 (-exponent).toNat)

/-- The double nearest to an integer, or none past the largest one. -/
def ofInt? (i : Int) : Option Binary64 :=
  ofRatio? (i < 0) i.natAbs 1

/-- The double nearest to a product, or none past the largest one. -/
def mul? (x y : Binary64) : Option Binary64 :=
  ofRatio? (x.negative != y.negative) (x.magnitude * y.magnitude) (1 <<< (2 * fineness))

/-- The double nearest to a quotient, or none past the largest one.  The
divisor is not zero. -/
def div? (x y : Binary64) : Option Binary64 :=
  ofRatio? (x.negative != y.negative) x.magnitude y.magnitude

/-- Order by value: the two zeros are equal. -/
def cmp (x y : Binary64) : Ordering :=
  compare x.units y.units

theorem ofParts?_eq_some_iff {negative : Bool} {mantissa scale : Nat} {x : Binary64} :
    ofParts? negative mantissa scale = some x ↔
      x.negative = negative ∧ x.mantissa = mantissa ∧ x.scale = scale := by
  unfold ofParts?
  split
  · rcases x with ⟨n, m, s, hm, hs, hn⟩
    simp only [Option.some.injEq, mk.injEq]
    constructor <;> rintro ⟨rfl, rfl, rfl⟩ <;> exact ⟨rfl, rfl, rfl⟩
  · rename_i h
    constructor
    · intro hx
      cases hx
    · rintro ⟨-, rfl, rfl⟩
      exact absurd ⟨x.mantissa_lt, x.scale_le, x.normal⟩ h

theorem roundHalfEven_eq_or (num den : Nat) :
    roundHalfEven num den = num / den ∨ roundHalfEven num den = num / den + 1 := by
  simp only [roundHalfEven]
  split
  · exact Or.inl rfl
  · exact Or.inr rfl
  · split
    · exact Or.inl rfl
    · exact Or.inr rfl

/-- The scale of a quotient leaves 53 bits of it. -/
theorem div_scale_lt (n : Nat) : n / 1 <<< (n.log2 - 52) < 1 <<< 53 := by
  rw [Nat.one_shiftLeft, Nat.one_shiftLeft, Nat.div_lt_iff_lt_mul (Nat.two_pow_pos _),
    ← Nat.pow_add]
  exact Nat.lt_of_lt_of_le Nat.lt_log2_self (Nat.pow_le_pow_right (by omega) (by omega))

theorem le_div_scale (n : Nat) (h : n.log2 - 52 ≠ 0) :
    1 <<< 52 ≤ n / 1 <<< (n.log2 - 52) := by
  have hn : n ≠ 0 := by
    rintro rfl
    simp at h
  rw [Nat.one_shiftLeft, Nat.one_shiftLeft, Nat.le_div_iff_mul_le (Nat.two_pow_pos _),
    ← Nat.pow_add, show 52 + (n.log2 - 52) = n.log2 by omega]
  exact Nat.log2_self_le hn

/-- A quotient of fewer than 1024 bits is near some double. -/
theorem ofRatio?_isSome (negative : Bool) {num den bits : Nat} (hden : 0 < den)
    (hbits : bits ≤ 1023) (h : num < den <<< bits) :
    (ofRatio? negative num den).isSome := by
  have hq : num <<< fineness / den < 1 <<< (bits + fineness) := by
    rw [Nat.shiftLeft_eq, Nat.mul_comm] at h
    rw [Nat.div_lt_iff_lt_mul hden, Nat.one_shiftLeft, Nat.shiftLeft_eq, Nat.pow_add,
      Nat.mul_right_comm]
    exact Nat.mul_lt_mul_of_pos_right h (Nat.two_pow_pos _)
  simp only [ofRatio?]
  generalize hquotient : num <<< fineness / den = quotient at hq ⊢
  have hscale : quotient.log2 - 52 + 1 ≤ 2045 := by
    by_cases hzero : quotient = 0
    · simp [hzero]
    · rw [Nat.one_shiftLeft] at hq
      have := (Nat.log2_lt hzero).2 hq
      simp only [fineness] at this
      omega
  clear hq h
  have hround := roundHalfEven_eq_or (num <<< fineness) (den <<< (quotient.log2 - 52))
  rw [Nat.shiftLeft_eq den, ← Nat.div_div_eq_div_mul, hquotient, ← Nat.shiftLeft_eq,
    ← Nat.one_shiftLeft] at hround
  have hlt := div_scale_lt quotient
  split
  · rw [ofParts?, dif_pos ⟨by decide, hscale, Or.inr (by decide)⟩]
    rfl
  · rename_i hcarry
    rw [ofParts?, dif_pos]
    · rfl
    · refine ⟨by omega, by omega, ?_⟩
      by_cases hs : quotient.log2 - 52 = 0
      · exact Or.inl hs
      · have := le_div_scale quotient hs
        exact Or.inr (by omega)

/-- The double nearest to an integer of at most 64 bits. -/
def ofInt (i : Int) (h : i.natAbs < 1 <<< 64) : Binary64 :=
  (ofInt? i).get (@ofRatio?_isSome _ _ _ 64 Nat.one_pos (by decide) h)

end Binary64
end JsonSelect
