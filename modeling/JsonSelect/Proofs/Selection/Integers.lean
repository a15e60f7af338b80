/-
Filters that compare the elements of an array with a whole number.  However the
number is written, it is read as the integer that it is, and integers compare as
integers as far as 64 bits go with a sign or without.
-/
import JsonSelect.Proofs.Path.RoundTrip
import JsonSelect.Proofs.Selection.Comparisons
import Mathlib

namespace JsonSelect

/-- The decimal texts of an integer: digits, with any number of zeros in front, behind a
sign or none. -/
inductive Numeral.Spells : List Char → Int → Prop where
  | plain (ds : List Nat) (hds : ds ≠ []) (hdecimal : ∀ d ∈ ds, d < 10) :
      Spells (ds.map digitChar) (ofDigits 10 ds)
  | plus (ds : List Nat) (hds : ds ≠ []) (hdecimal : ∀ d ∈ ds, d < 10) :
      Spells ('+' :: ds.map digitChar) (ofDigits 10 ds)
  | minus (ds : List Nat) (hds : ds ≠ []) (hdecimal : ∀ d ∈ ds, d < 10) :
      Spells ('-' :: ds.map digitChar) (-ofDigits 10 ds)

/-- Whether two integers compare as it says. -/
def Comparison.ofIntegers : Comparison → Int → Int → Bool
  | equal, m, n => m = n
  | notEqual, m, n => m ≠ n
  | less, m, n => m < n
  | lessOrEqual, m, n => m ≤ n
  | greater, m, n => m > n
  | greaterOrEqual, m, n => m ≥ n

theorem Comparison.holds_compare (comparison : Comparison) (m n : Int) :
    comparison.holds (compare m n) = comparison.ofIntegers m n := by
  rw [Bool.eq_iff_iff, holds_iff_order]
  cases comparison <;> simp [Says, ofIntegers] <;> omega

/-- Whether a value is an integer of a chosen kind. -/
def Json.isInteger (chosen : Int → Bool) : Json → Bool
  | .number (.integer m _) => chosen m
  | _ => false

/-! The path -/

namespace Path

open Grammar

theorem numberText_spelled {text : Text} {n : Int} (hspells : Numeral.Spells text n)
    (hn : -0x8000000000000000 ≤ n ∧ n < 0x10000000000000000) (after : Text) :
    NumberText (text ++ after) (.integer n hn) after := by
  cases hspells with
  | plain ds hds hdecimal =>
      exact numberText_of_signed (.absent _) (digits_map hdecimal after) hds rfl hn
  | plus ds hds hdecimal =>
      exact numberText_of_signed (.plus _) (digits_map hdecimal after) hds rfl hn
  | minus ds hds hdecimal =>
      exact numberText_of_signed (.minus _) (digits_map hdecimal after) hds rfl hn

/-- A filter for the values that compare with a literal. -/
def comparing (comparison : Comparison) (value : Scalar) : Path :=
  ⟨[.filter (.compare comparison (.path .current []) (.literal value))]⟩

theorem pathText_comparing {text : Text} {value : Scalar} (comparison : Comparison)
    (hliteral : Literal (text ++ [')', ']']) value [')', ']']) :
    PathText (['$', '[', '?', '(', '@', ' '] ++ (comparison.symbol.toList ++
      ' ' :: (text ++ [')', ']']))) (comparing comparison value) := by
  have hrelated : Related Disjunction ('@' :: ' ' :: (comparison.symbol.toList ++
      ' ' :: (text ++ [')', ']'])))
        (.compare comparison (.path .current []) (.literal value))
        [')', ']'] :=
    .compare (.current (.nil _)) (blanks_space _) (comparisonText_symbol comparison)
      (blanks_space _) (.literal hliteral)
  have hparentheses := Unary.parentheses (.nil _)
    (disjunction_of_unary (.related hrelated))
    (.nil _)
  have hfilter := Body.filter (.nil _) (disjunction_of_unary hparentheses)
  exact .intro (.nil _) (.bracket (.intro (.nil _) hfilter (.nil _)) (.nil [])) (.nil [])

theorem ofText?_comparing {numeral : String} {n : Int}
    (hspells : Numeral.Spells numeral.toList n)
    (hn : -0x8000000000000000 ≤ n ∧ n < 0x10000000000000000) (comparison : Comparison) :
    ofText? ("$[?(@ " ++ comparison.symbol ++ " " ++ numeral ++ ")]") =
      .ok (comparing comparison (.number (.integer n hn))) := by
  rw [ofText?_eq_ok, parse_eq_ok_iff]
  simp only [String.toList_append, List.append_assoc]
  exact pathText_comparing comparison (.number (numberText_spelled hspells hn _))

end Path

/-! What it selects -/

theorem Json.map_snd_children_array (elements : List Json) :
    (array elements).children.map Prod.snd = elements := by
  rw [children, List.map_map]
  exact List.zipIdx_map_fst 0 elements

theorem Json.map_snd_filter_children_array (elements : List Json) (chosen : Json → Bool) :
    ((array elements).children.filter (chosen ·.2)).map Prod.snd =
      elements.filter chosen := by
  have hfilter : (((array elements).children.map Prod.snd).filter chosen) =
      ((array elements).children.filter (chosen ∘ Prod.snd)).map Prod.snd :=
        List.filter_map
  rw [map_snd_children_array] at hfilter
  exact hfilter.symm

theorem Predicate.holds_compare_current_iff (comparison : Comparison) (value : Scalar)
    (root current : Json) :
    (compare comparison (.path .current []) (.literal value)).holds root current = true ↔
      comparison.decides current (.ofScalar value) = true := by
  rw [holds_compare_iff]
  simp [Operand.values, Step.values, Anchor.start, located_nil]

/-- Integers compare as such, and what is no number does not compare with one. -/
theorem Predicate.holds_compare_integer (comparison : Comparison) {n : Int} {hn}
    {root current : Json} (hcurrent : ∀ x : Binary64, current ≠ .number (.float x)) :
    (compare comparison (.path .current [])
      (.literal (.number (.integer n hn)))).holds root
      current = current.isInteger (comparison.ofIntegers · n) := by
  rw [Bool.eq_iff_iff, holds_compare_current_iff]
  match current, hcurrent with
  | .number (.integer m hm), _ =>
      rw [Json.isInteger, ← Comparison.holds_compare]
      simp [Comparison.decides, Json.ofScalar, Json.scalar?, Scalar.cmp?, Number.cmp]
  | .number (.float x), hcurrent => exact absurd rfl (hcurrent x)
  | .null, _ | .bool _, _ | .string _, _ | .array _, _ | .object _, _ =>
      simp [Comparison.decides, Json.ofScalar, Json.scalar?, Scalar.cmp?, Json.isInteger]

namespace Path

/-- One filter selects the children for which the predicate holds. -/
theorem queryLocated_filter (predicate : Predicate) (document : Json) :
    queryLocated ⟨[.filter predicate]⟩ document =
      (document.children.filter fun child => predicate.holds document child.2).map
        fun child => ⟨[child.1], child.2⟩ := by
  have hfilter : Step.filter predicate ≠ .descent := nofun
  rw [queryLocated_eq_located, located_sole document hfilter]
  rfl

/-- A filter for the elements that compare with a whole number can be written with each
of its decimal texts.  From an array in which there are no doubles it selects, in order,
the integers that compare with the number as integers do, though the two may be in no
word of 64 bits together. -/
theorem filter_selects_integers {numeral : String} {n : Int}
    (hspells : Numeral.Spells numeral.toList n)
    (hn : -0x8000000000000000 ≤ n ∧ n < 0x10000000000000000) (comparison : Comparison)
    {elements : List Json} (hfloat : ∀ x : Binary64, .number (.float x) ∉ elements) :
    ∃ path,
      ofText? ("$[?(@ " ++ comparison.symbol ++ " " ++ numeral ++ ")]") = .ok path ∧
      path.query (.array elements) =
        elements.filter (Json.isInteger (comparison.ofIntegers · n)) ∧
      path.queryLocated (.array elements) =
        (((Json.array elements).children.filter fun child =>
          child.2.isInteger (comparison.ofIntegers · n)).map fun child =>
            ⟨[child.1], child.2⟩) ∧
      ∀ (m : Int) (hm),
        comparison.holds ((Number.integer m hm).cmpByWidth (.integer n hn)) =
        comparison.ofIntegers m n := by
  refine ⟨_, ofText?_comparing hspells hn comparison, ?_⟩
  have hlocated :
      (comparing comparison (.number (.integer n hn))).queryLocated (.array elements) =
      ((Json.array elements).children.filter fun child =>
        child.2.isInteger (comparison.ofIntegers · n)).map fun child =>
          ⟨[child.1], child.2⟩ := by
    rw [comparing, queryLocated_filter]
    refine congrArg _ (List.filter_congr fun child hchild => ?_)
    have helement : child.2 ∈ elements := by
      rw [← Json.map_snd_children_array elements]
      exact List.mem_map_of_mem hchild
    exact Predicate.holds_compare_integer comparison fun x hx => hfloat x (hx ▸ helement)
  refine ⟨?_, hlocated, fun m hm => ?_⟩
  · rw [query_eq_map_value, hlocated, List.map_map]
    exact Json.map_snd_filter_children_array elements _
  · rw [Number.cmpByWidth_eq_cmp]
    exact comparison.holds_compare m n

/-- The greatest integer that there is, and one that is negative, beside the least that
there is, with a sign and two zeros. -/
theorem filter_selects_integers_of_both_signs :
    let elements :=
      [Json.number (.integer 18446744073709551615 (by decide)), .string "1", .null,
      .number (.integer (-9223372036854775808) (by decide)), .array []]
    Numeral.Spells "-009223372036854775808".toList (-9223372036854775808) ∧
      (∀ x : Binary64, .number (.float x) ∉ elements) ∧
      ∃ path, ofText? ("$[?(@ " ++ Comparison.greater.symbol ++ " " ++
          "-009223372036854775808" ++ ")]") = .ok path ∧
        path.query (.array elements) =
          [.number (.integer 18446744073709551615 (by decide))] := by
  intro elements
  have hspells : Numeral.Spells "-009223372036854775808".toList (-9223372036854775808) :=
    .minus [0, 0, 9, 2, 2, 3, 3, 7, 2, 0, 3, 6, 8, 5, 4, 7, 7, 5, 8, 0, 8] (by decide)
      (by decide)
  have hfloat : ∀ x : Binary64, .number (.float x) ∉ elements := by simp [elements]
  obtain ⟨path, hpath, hquery, -⟩ :=
    filter_selects_integers hspells (by decide) .greater hfloat
  exact ⟨hspells, hfloat, path, hpath, hquery⟩

end Path

end JsonSelect
