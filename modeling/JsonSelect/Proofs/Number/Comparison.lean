/-
How numbers compare, against the order of what they are.  Both as signed words,
both as unsigned words, or both as doubles: the first two are exact, and the
third is unless an integer is rounded to the very double that it meets.
-/
import JsonSelect.Proofs.Number.Nearest
import JsonSelect.Proofs.Selection.Predicates

namespace JsonSelect.Number

/-- The number itself. -/
def value : Number → ℚ
  | .integer n _ => n
  | .float x => x.value

/-! The three ways -/

/-- The integer, where a signed word of 64 bits holds it. -/
def signed? : Number → Option Int
  | .integer n _ => if n < 0x8000000000000000 then some n else none
  | .float _ => none

/-- The integer, where an unsigned word of 64 bits holds it. -/
def unsigned? : Number → Option Int
  | .integer n _ => if 0 ≤ n then some n else none
  | .float _ => none

/-- The comparison by the words that hold both numbers. -/
def cmpByWidth (a b : Number) : Ordering :=
  match a.signed?, b.signed? with
  | some m, some n => compare m n
  | _, _ =>
      match a.unsigned?, b.unsigned? with
      | some m, some n => compare m n
      | _, _ => a.toBinary64.cmp b.toBinary64

theorem natAbs_lt_of_inRange {n : Int}
    (h : -0x8000000000000000 ≤ n ∧ n < 0x10000000000000000) : n.natAbs < 1 <<< 64 := by
  omega

theorem toBinary64_integer (n : Int) (h) :
    toBinary64 (.integer n h) = Binary64.ofInt n (natAbs_lt_of_inRange h) :=
  rfl

/-- No double is nearer to a number than the one that it is taken as. -/
theorem abs_sub_value_toBinary64_le (a : Number) (y : Binary64) :
    |a.value - a.toBinary64.value| ≤ |a.value - y.value| := by
  cases a with
  | integer n h => exact Binary64.abs_sub_value_ofInt_le n (natAbs_lt_of_inRange h) y
  | float x =>
      rw [value, toBinary64, sub_self, abs_zero]
      exact abs_nonneg _

/-- Integers on the two sides of zero are still on them as doubles. -/
theorem value_toBinary64_lt_of_signs {m n : Int} (hm) (hn) (hneg : m < 0) (hpos : 0 < n) :
    (toBinary64 (.integer m hm)).value < (toBinary64 (.integer n hn)).value := by
  have hzero : (Binary64.ofInt 0 (by decide)).value = (0 : Int) :=
    Binary64.value_ofInt_of_natAbs_le (by decide)
  have hone : (Binary64.ofInt 1 (by decide)).value = (1 : Int) :=
    Binary64.value_ofInt_of_natAbs_le (by decide)
  have hbelow : (toBinary64 (.integer m hm)).value ≤ (0 : Int) := by
    rw [toBinary64_integer, ← hzero]
    refine Binary64.value_ofInt_le ?_
    rw [hzero]
    exact_mod_cast hneg.le
  have habove : ((1 : Int) : ℚ) ≤ (toBinary64 (.integer n hn)).value := by
    rw [toBinary64_integer, ← hone]
    refine Binary64.le_value_ofInt ?_
    rw [hone]
    exact_mod_cast hpos
  exact hbelow.trans_lt (lt_of_lt_of_le (by norm_num) habove)

theorem signed?_integer_eq_some_iff {n k : Int} {h} :
    signed? (.integer n h) = some k ↔ n < 0x8000000000000000 ∧ n = k := by
  simp [signed?]

theorem unsigned?_integer_eq_some_iff {n k : Int} {h} :
    unsigned? (.integer n h) = some k ↔ 0 ≤ n ∧ n = k := by
  simp [unsigned?]

/-- The widths do not matter: integers compare as such, and all else as doubles. -/
theorem cmpByWidth_eq_cmp (a b : Number) : a.cmpByWidth b = a.cmp b := by
  rcases a with ⟨m, hm⟩ | x <;> rcases b with ⟨n, hn⟩ | y
  case integer.integer =>
    rw [cmpByWidth, cmp]
    split
    · rename_i hleft hright
      rw [(signed?_integer_eq_some_iff.1 hleft).2,
        (signed?_integer_eq_some_iff.1 hright).2]
    · rename_i hsigned
      split
      · rename_i hleft hright
        rw [(unsigned?_integer_eq_some_iff.1 hleft).2,
          (unsigned?_integer_eq_some_iff.1 hright).2]
      · -- No word holds both only if they are on different sides of zero.
        rename_i hunsigned
        have hfits : ¬ (m < 0x8000000000000000 ∧ n < 0x8000000000000000) := fun h =>
          hsigned m n (signed?_integer_eq_some_iff.2 ⟨h.1, rfl⟩)
            (signed?_integer_eq_some_iff.2 ⟨h.2, rfl⟩)
        have hnonneg : ¬ (0 ≤ m ∧ 0 ≤ n) := fun h =>
          hunsigned m n (unsigned?_integer_eq_some_iff.2 ⟨h.1, rfl⟩)
            (unsigned?_integer_eq_some_iff.2 ⟨h.2, rfl⟩)
        rw [Binary64.cmp_eq_compare_value]
        have hsides : m < 0 ∧ 0 < n ∨ n < 0 ∧ 0 < m := by omega
        rcases hsides with ⟨hneg, hpos⟩ | ⟨hneg, hpos⟩
        · rw [compare_lt_iff_lt.2 (value_toBinary64_lt_of_signs hm hn hneg hpos),
            compare_lt_iff_lt.2 (hneg.trans hpos)]
        · rw [compare_gt_iff_gt.2 (value_toBinary64_lt_of_signs hn hm hneg hpos),
            compare_gt_iff_gt.2 (hneg.trans hpos)]
  case integer.float => simp [cmpByWidth, signed?, unsigned?, cmp]
  case float.integer => simp [cmpByWidth, signed?, unsigned?, cmp]
  case float.float => rfl

/-! By value -/

/-- An integer beside a double that it is not, but that it is rounded to. -/
def Blurred : Number → Number → Prop
  | .integer n h, .float x => (toBinary64 (.integer n h)).value = x.value ∧ x.value ≠ n
  | .float x, .integer n h => (toBinary64 (.integer n h)).value = x.value ∧ x.value ≠ n
  | _, _ => False

/-- Two different integers with a double between them. -/
def Parted : Number → Number → Number → Prop
  | .integer m _, .float _, .integer n _ => m ≠ n
  | _, _, _ => False

theorem cmp_integer_float (n : Int) (h) (x : Binary64) :
    cmp (.integer n h) (.float x) = compare (toBinary64 (.integer n h)).value x.value :=
  Binary64.cmp_eq_compare_value _ _

theorem cmp_float_integer (x : Binary64) (n : Int) (h) :
    cmp (.float x) (.integer n h) = compare x.value (toBinary64 (.integer n h)).value :=
  Binary64.cmp_eq_compare_value _ _

theorem cmp_float_float (x y : Binary64) :
    cmp (.float x) (.float y) = compare x.value y.value :=
  Binary64.cmp_eq_compare_value _ _

theorem cmp_integer_integer (m n : Int) (hm hn) :
    cmp (.integer m hm) (.integer n hn) = compare (m : ℚ) n :=
  (Binary64.compare_strictMono Int.cast_strictMono m n).symm

/-- An integer is on the same side of a double as the double that it is rounded to. -/
theorem cmp_integer_float_of_ne {n : Int} {h} {x : Binary64}
    (hne : (toBinary64 (.integer n h)).value ≠ x.value) :
    cmp (.integer n h) (.float x) = compare (n : ℚ) x.value := by
  rw [cmp_integer_float]
  rw [toBinary64_integer] at hne ⊢
  rcases lt_or_gt_of_ne hne with hlt | hgt
  · rw [compare_lt_iff_lt.2 hlt, compare_lt_iff_lt.2 (Binary64.lt_value_of_ofInt_lt hlt)]
  · rw [compare_gt_iff_gt.2 hgt, compare_gt_iff_gt.2 (Binary64.value_lt_of_lt_ofInt hgt)]

theorem cmp_swap (a b : Number) : (a.cmp b).swap = b.cmp a := by
  rcases a with ⟨m, hm⟩ | x <;> rcases b with ⟨n, hn⟩ | y
  case integer.integer =>
    rw [cmp_integer_integer, cmp_integer_integer, ← Std.OrientedOrd.eq_swap]
  case integer.float =>
    rw [cmp_integer_float, cmp_float_integer, ← Std.OrientedOrd.eq_swap]
  case float.integer =>
    rw [cmp_integer_float, cmp_float_integer, ← Std.OrientedOrd.eq_swap]
  case float.float => rw [cmp_float_float, cmp_float_float, ← Std.OrientedOrd.eq_swap]

theorem Blurred.exists_integer_float {a b : Number} (hblurred : a.Blurred b) :
    ∃ (n : Int) (h : _) (x : Binary64),
      (toBinary64 (.integer n h)).value = x.value ∧ x.value ≠ n ∧
      (a = .integer n h ∧ b = .float x ∨ a = .float x ∧ b = .integer n h) := by
  rcases a with ⟨m, hm⟩ | x <;> rcases b with ⟨n, hn⟩ | y
  case integer.integer => exact False.elim hblurred
  case integer.float => exact ⟨m, hm, y, hblurred.1, hblurred.2, Or.inl ⟨rfl, rfl⟩⟩
  case float.integer => exact ⟨n, hn, x, hblurred.1, hblurred.2, Or.inr ⟨rfl, rfl⟩⟩
  case float.float => exact False.elim hblurred

theorem Blurred.value_ne {a b : Number} (hblurred : a.Blurred b) : a.value ≠ b.value := by
  obtain ⟨n, h, x, -, hne, ⟨rfl, rfl⟩ | ⟨rfl, rfl⟩⟩ := hblurred.exists_integer_float
  · exact hne.symm
  · exact hne

theorem Blurred.cmp_eq {a b : Number} (hblurred : a.Blurred b) : a.cmp b = .eq := by
  obtain ⟨n, h, x, hrounded, -, ⟨rfl, rfl⟩ | ⟨rfl, rfl⟩⟩ := hblurred.exists_integer_float
  · rw [cmp_integer_float, compare_eq_iff_eq.2 hrounded]
  · rw [cmp_float_integer, compare_eq_iff_eq.2 hrounded.symm]

theorem cmp_integer_float_of_not_blurred {n : Int} {h} {x : Binary64}
    (hblurred : ¬ Blurred (.integer n h) (.float x)) :
    cmp (.integer n h) (.float x) = compare (n : ℚ) x.value := by
  by_cases heq : (toBinary64 (.integer n h)).value = x.value
  · have hsame : x.value = n := by
      by_contra hne
      exact hblurred ⟨heq, hne⟩
    rw [cmp_integer_float, heq, hsame]
  · exact cmp_integer_float_of_ne heq

/-- Numbers compare as what they are, save where an integer is rounded to the
double beside it. -/
theorem cmp_eq_compare_value_iff (a b : Number) :
    a.cmp b = compare a.value b.value ↔ ¬ a.Blurred b := by
  constructor
  · intro hcmp hblurred
    rw [hblurred.cmp_eq, eq_comm, compare_eq_iff_eq] at hcmp
    exact hblurred.value_ne hcmp
  · intro hblurred
    rcases a with ⟨m, hm⟩ | x <;> rcases b with ⟨n, hn⟩ | y
    case integer.integer => exact cmp_integer_integer m n hm hn
    case integer.float => exact cmp_integer_float_of_not_blurred hblurred
    case float.integer =>
      rw [← cmp_swap, cmp_integer_float_of_not_blurred hblurred,
        ← Std.OrientedOrd.eq_swap]
      rfl
    case float.float => exact cmp_float_float x y

/-- The order of what two numbers are. -/
def exactOrder (a b : Number) : Ordering :=
  compare a.value b.value

instance decidableBlurred : (a b : Number) → Decidable (a.Blurred b)
  | .integer n h, .float x =>
      inferInstanceAs
        (Decidable ((toBinary64 (.integer n h)).value = x.value ∧ x.value ≠ n))
  | .float x, .integer n h =>
      inferInstanceAs
        (Decidable ((toBinary64 (.integer n h)).value = x.value ∧ x.value ≠ n))
  | .integer _ _, .integer _ _ => isFalse id
  | .float _, .float _ => isFalse id

/-- That order, but for an integer and the double that it is rounded to, which
count as equal. -/
def blurredOrder (a b : Number) : Ordering :=
  if a.Blurred b then .eq else a.exactOrder b

theorem cmp_eq_blurredOrder (a b : Number) : a.cmp b = a.blurredOrder b := by
  by_cases hblurred : a.Blurred b
  · rw [blurredOrder, if_pos hblurred, hblurred.cmp_eq]
  · rw [blurredOrder, if_neg hblurred, exactOrder,
      (cmp_eq_compare_value_iff a b).2 hblurred]

/-! Where numbers blur -/

/-- An integer that is rounded has more than 53 bits, and what it is rounded to
is not below. -/
theorem Blurred.le_abs {a b : Number} (hblurred : a.Blurred b) :
    2 ^ 53 ≤ |a.value| ∧ 2 ^ 53 ≤ |b.value| := by
  obtain ⟨n, h, x, hrounded, hne, hpair⟩ := hblurred.exists_integer_float
  rw [toBinary64_integer] at hrounded
  have hlarge : 2 ^ 53 ≤ n.natAbs := by
    by_contra! hlt
    exact hne (hrounded ▸ Binary64.value_ofInt_of_natAbs_le hlt.le)
  have hinteger : 2 ^ 53 ≤ |(n : ℚ)| := by
    rw [← Int.cast_abs, Int.abs_eq_natAbs]
    exact_mod_cast hlarge
  have hdouble : 2 ^ 53 ≤ |x.value| := hrounded ▸ Binary64.le_abs_value_ofInt hlarge
  rcases hpair with ⟨rfl, rfl⟩ | ⟨rfl, rfl⟩
  · exact ⟨hinteger, hdouble⟩
  · exact ⟨hdouble, hinteger⟩

/-! Equality across three numbers -/

theorem toBinary64_value_of_cmp_eq {a b : Number} (heq : a.cmp b = .eq) :
    a.toBinary64.value = b.toBinary64.value := by
  rcases a with ⟨m, hm⟩ | x <;> rcases b with ⟨n, hn⟩ | y
  case integer.integer =>
    rw [cmp_integer_integer, compare_eq_iff_eq, Int.cast_inj] at heq
    simp only [heq]
  case integer.float => rwa [cmp_integer_float, compare_eq_iff_eq] at heq
  case float.integer => rwa [cmp_float_integer, compare_eq_iff_eq] at heq
  case float.float => rwa [cmp_float_float, compare_eq_iff_eq] at heq

/-- Equality passes on, save from one integer over a double to another integer. -/
theorem cmp_eq_trans_iff {a b c : Number} (hab : a.cmp b = .eq) (hbc : b.cmp c = .eq) :
    a.cmp c = .eq ↔ ¬ Parted a b c := by
  have hdoubles : a.toBinary64.value = c.toBinary64.value :=
    (toBinary64_value_of_cmp_eq hab).trans (toBinary64_value_of_cmp_eq hbc)
  rcases a with ⟨m, hm⟩ | x <;> rcases c with ⟨n, hn⟩ | z
  case integer.integer =>
    rw [cmp_integer_integer, compare_eq_iff_eq, Int.cast_inj]
    rcases b with ⟨k, hk⟩ | y
    · rw [cmp_integer_integer, compare_eq_iff_eq, Int.cast_inj] at hab hbc
      exact iff_of_true (hab.trans hbc) id
    · exact not_not.symm
  case integer.float =>
    rw [cmp_integer_float, compare_eq_iff_eq]
    exact iff_of_true hdoubles (by cases b <;> exact id)
  case float.integer =>
    rw [cmp_float_integer, compare_eq_iff_eq]
    exact iff_of_true hdoubles id
  case float.float =>
    rw [cmp_float_float, compare_eq_iff_eq]
    exact iff_of_true hdoubles id

/-! The operators -/

variable {root current : Json} {left right : Operand} {a b : Number}

/-- An operator between two numbers reads their comparison. -/
theorem holds_compare_numbers_iff {comparison : Comparison}
    (hleft : left.values root current = [.number a])
    (hright : right.values root current = [.number b]) :
    (Predicate.compare comparison left right).holds root current = true ↔
      comparison.Says (a.cmp b = .lt) (a.cmp b = .eq) (a.cmp b = .gt) := by
  rw [Predicate.holds_compare_iff, hleft, hright, ← Comparison.holds_iff]
  simp [Comparison.decides, Json.scalar?, Scalar.cmp?]

/-- The operators decide the order of the numbers themselves, all six of them, unless
one of the numbers is rounded to the other. -/
theorem holds_compare_by_value_iff (hleft : left.values root current = [.number a])
    (hright : right.values root current = [.number b]) :
    (∀ comparison : Comparison,
      (Predicate.compare comparison left right).holds root current = true ↔
        comparison.Says (a.value < b.value) (a.value = b.value) (b.value < a.value)) ↔
      ¬ a.Blurred b := by
  simp only [holds_compare_numbers_iff hleft hright]
  constructor
  · intro hoperators hblurred
    exact hblurred.value_ne ((hoperators .equal).1 hblurred.cmp_eq)
  · intro hblurred comparison
    rw [(cmp_eq_compare_value_iff a b).2 hblurred, compare_lt_iff_lt, compare_eq_iff_eq,
      compare_gt_iff_gt]

/-- How numbers compare: by the words that hold both, which comes to integers as such
and all else as the nearest doubles.  That is the order of the numbers themselves, in
each operator of a filter, exactly where no integer is rounded to a double beside it.
There the two count as equal, and neither is below `2 ^ 53`.  So equality passes on,
save from an integer over a double to another integer. -/
theorem compared_by_value_iff_not_blurred (a b : Number) :
    a.cmpByWidth b = a.cmp b ∧
      (∀ y : Binary64, |a.value - a.toBinary64.value| ≤ |a.value - y.value|) ∧
      (a.cmp b = compare a.value b.value ↔ ¬ a.Blurred b) ∧
      (a.Blurred b → a.cmp b = .eq ∧ 2 ^ 53 ≤ |a.value| ∧ 2 ^ 53 ≤ |b.value|) ∧
      (∀ (root current : Json) (left right : Operand),
        left.values root current = [.number a] → right.values root current = [.number b] →
          ((∀ comparison : Comparison,
            (Predicate.compare comparison left right).holds root current = true ↔
              comparison.Says
                (a.value < b.value) (a.value = b.value) (b.value < a.value)) ↔
            ¬ a.Blurred b)) ∧
      ∀ c : Number, a.cmp b = .eq → b.cmp c = .eq → (a.cmp c = .eq ↔ ¬ Parted a b c) := by
  refine ⟨cmpByWidth_eq_cmp a b, a.abs_sub_value_toBinary64_le,
    cmp_eq_compare_value_iff a b, ?_, ?_, ?_⟩
  · intro hblurred
    exact ⟨hblurred.cmp_eq, hblurred.le_abs⟩
  · intro root current left right hleft hright
    exact holds_compare_by_value_iff hleft hright
  · intro c hab hbc
    exact cmp_eq_trans_iff hab hbc

/-- `2 ^ 53 + 1` as an integer equals `2 ^ 53` as a double, which equals `2 ^ 53` as an
integer, and a filter for what is greater than that double does not select it. -/
theorem cmp_eq_of_rounded_integer :
    let next : Number := .integer 9007199254740993 (by decide)
    let limit : Number := .integer 9007199254740992 (by decide)
    let double : Number := .float (Binary64.ofInt 9007199254740992 (by decide))
    let greater : Path :=
      ⟨[.filter (.compare .greater (.path .current []) (.literal (.number double)))]⟩
    double.value < next.value ∧ next.cmp double = .eq ∧ double.cmp limit = .eq ∧
      next.cmp limit = .gt ∧ greater.hasMatch (.array [.number next]) = false := by
  refine ⟨?_, by decide +kernel, by decide +kernel, by decide +kernel, by decide +kernel⟩
  have hdouble : (Binary64.ofInt 9007199254740992 (by decide)).value =
      (9007199254740992 : Int) :=
    Binary64.value_ofInt_of_natAbs_le (by decide)
  rw [value, value, hdouble]
  norm_num

end JsonSelect.Number
