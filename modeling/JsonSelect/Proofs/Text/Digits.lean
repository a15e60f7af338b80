/-
The digits of a numeral: there is at least one, each is below the base, and what
runs of digits stand for when they are put one after the other.
-/
import JsonSelect.Text.Numeral
import Mathlib

namespace JsonSelect.Numeral

theorem digitsFrom_lt {base : Nat} (hbase : 0 < base) (bound n : Nat) :
    ∀ d ∈ digitsFrom base bound n, d < base := by
  induction bound generalizing n with
  | zero => simp [digitsFrom]
  | succ bound ih =>
      intro d hd
      unfold digitsFrom at hd
      split at hd
      · rename_i hn
        rw [List.mem_singleton.1 hd]
        exact hn
      · rcases List.mem_cons.1 hd with rfl | hd
        · exact Nat.mod_lt n hbase
        · exact ih (n / base) d hd

theorem digits_lt {base : Nat} (hbase : 0 < base) (n : Nat) :
    ∀ d ∈ digits base n, d < base := by
  intro d hd
  exact digitsFrom_lt hbase _ n d (List.mem_reverse.1 hd)

theorem digits_ne_nil (base n : Nat) : digits base n ≠ [] := by
  intro h
  rw [digits, List.reverse_eq_nil_iff, digitsFrom] at h
  split at h
  · exact absurd h (List.cons_ne_nil _ _)
  · exact absurd h (List.cons_ne_nil _ _)

theorem ofDigits_concat (base : Nat) (ds es : List Nat) :
    ofDigits base (ds ++ es) =
      ofDigits base ds * base ^ es.length + ofDigits base es := by
  induction es using List.reverseRecOn with
  | nil => simp [ofDigits]
  | append_singleton es e ih =>
      rw [← List.append_assoc, ofDigits_append, ih, ofDigits_append, List.length_append,
        List.length_singleton, Nat.pow_succ]
      ring

theorem ofDigits_zeros (base places : Nat) :
    ofDigits base (List.replicate places 0) = 0 := by
  induction places with
  | zero => rfl
  | succ places ih =>
      rw [List.replicate_succ', ofDigits_append, ih]
      simp

/-- The character of a decimal digit is one, and stands for it. -/
theorem digitChar_decimal {d : Nat} (hd : d < 10) :
    '0' ≤ digitChar d ∧ digitChar d ≤ '9' ∧ (digitChar d).toNat - '0'.toNat = d := by
  interval_cases d <;> decide

theorem length_digitsFrom_le {base n places : Nat} (bound : Nat) (hplaces : 0 < places)
    (hn : n < base ^ places) :
    (digitsFrom base bound n).length ≤ places := by
  induction bound generalizing n places with
  | zero => simp [digitsFrom]
  | succ bound ih =>
      unfold digitsFrom
      split
      · exact hplaces
      · rename_i hbelow
        obtain ⟨places, rfl⟩ := Nat.exists_eq_add_of_le' hplaces
        rw [Nat.pow_succ] at hn
        have hpositive : 0 < places := by
          rcases Nat.eq_zero_or_pos places with rfl | hpos
          · rw [Nat.pow_zero, Nat.one_mul] at hn
            exact absurd hn hbelow
          · exact hpos
        have hdiv : n / base < base ^ places :=
          Nat.div_lt_of_lt_mul (by rwa [Nat.mul_comm])
        have hlength := ih hpositive hdiv
        simp only [List.length_cons]
        omega

/-- Four hexadecimal digits hold what is below `16 ^ 4`. -/
theorem hex4_eq_map {n : Nat} (hn : n < 16 ^ 4) :
    ∃ d₁ d₂ d₃ d₄, hex4 n = [d₁, d₂, d₃, d₄].map digitChar ∧
      (∀ d ∈ [d₁, d₂, d₃, d₄], d < 16) ∧ n = ((d₁ * 16 + d₂) * 16 + d₃) * 16 + d₄ := by
  have hlength : (digits 16 n).length ≤ 4 := by
    rw [digits, List.length_reverse]
    exact length_digitsFrom_le _ (by decide) hn
  have hpadded :
      (List.replicate (4 - (digits 16 n).length) 0 ++ digits 16 n).length = 4 := by
    rw [List.length_append, List.length_replicate]
    omega
  have hlt : ∀ d ∈ List.replicate (4 - (digits 16 n).length) 0 ++ digits 16 n,
      d < 16 := by
    intro d hd
    rcases List.mem_append.1 hd with hd | hd
    · rw [List.eq_of_mem_replicate hd]
      decide
    · exact digits_lt (by decide) n d hd
  have hvalue :
      ofDigits 16 (List.replicate (4 - (digits 16 n).length) 0 ++ digits 16 n) = n := by
    rw [ofDigits_concat, ofDigits_zeros, Nat.zero_mul, Nat.zero_add,
      ofDigits_digits 16 n (by decide)]
  have hchars : hex4 n =
      (List.replicate (4 - (digits 16 n).length) 0 ++ digits 16 n).map digitChar := by
    rw [List.map_append, List.map_replicate, hex4, List.length_map]
    rfl
  generalize List.replicate (4 - (digits 16 n).length) 0 ++ digits 16 n = ds at *
  match ds, hpadded with
  | [d₁, d₂, d₃, d₄], _ =>
      refine ⟨d₁, d₂, d₃, d₄, hchars, hlt, ?_⟩
      rw [← hvalue]
      simp [ofDigits]

theorem hexadecimal?_digitChar {d : Nat} (hd : d < 16) :
    hexadecimal? (digitChar d) = some d := by
  interval_cases d <;> decide

end JsonSelect.Numeral
