/-
What predicates say, by the complete lists of values that their operands stand
for.  Nothing is cut off here and nothing is walked: a step leads to a list of
values, some steps to what each of them leads to in turn, and a predicate is
true of a value or not.  The order of numbers is open.  Predicates hold exactly
where they are true with integers blurred to the doubles beside them, and so
where they are true with numbers as they are, unless they meet two that blur.
-/
import JsonSelect.Proofs.Number.Comparison

namespace JsonSelect

/-- Whether two values are scalars of one type between which a comparison is true in the
order of that type, which for numbers is the given one. -/
def Comparison.Relates (order : Number → Number → Ordering) (comparison : Comparison) :
    Json → Json → Prop
  | .null, .null => comparison.Says False True False
  | .bool a, .bool b => comparison.Says (a < b) (a = b) (b < a)
  | .number a, .number b =>
      comparison.Says (order a b = .lt) (order a b = .eq) (order a b = .gt)
  | .string a, .string b => comparison.Says (a < b) (a = b) (b < a)
  | _, _ => False

namespace Json

/-- The value itself and everything below it, in document order. -/
def everything (value : Json) : List Json :=
  value :: value.children.attach.flatMap fun ⟨child, _⟩ => child.2.everything
termination_by sizeOf value
decreasing_by
  rename_i hchild
  exact sizeOf_lt_of_mem_children hchild

theorem everything_eq (value : Json) :
    value.everything = value :: value.children.flatMap fun child =>
      child.2.everything := by
  rw [everything]
  conv_rhs => rw [← List.attach_map_subtype_val value.children, List.flatMap_map]

end Json

open Classical in
mutual

/-- The values that a step leads to. -/
noncomputable def Step.leadsTo (order : Number → Number → Ordering) (root : Json) :
    Step → Json → List Json
  | .key name, value => ((Item.key name).selected value).map (·.2)
  | .index position, value => ((Item.index position).selected value).map (·.2)
  | .wildcard, value => value.children.map (·.2)
  | .descent, value => value.everything
  | .slice range, value =>
      (value.children.filter fun child =>
        range.coversElement value.children.length child.1).map (·.2)
  | .union items, value => (items.flatMap (Item.selected value)).map (·.2)
  | .filter predicate, value =>
      (value.children.map (·.2)).filter fun candidate =>
        predicate.TrueOf order root candidate

/-- The values that some steps lead to, one step after another. -/
noncomputable def Step.allLeadTo (order : Number → Number → Ordering) (root : Json) :
    List Step → Json → List Json
  | [], value => [value]
  | step :: rest, value =>
      (step.leadsTo order root value).flatMap (Step.allLeadTo order root rest)

/-- What a predicate says of a value in a document with the given root. -/
noncomputable def Predicate.TrueOf (order : Number → Number → Ordering) (root : Json) :
    Predicate → Json → Prop
  | .compare comparison left right, current =>
      ∃ a b, left.standsFor order root current = [a] ∧
        right.standsFor order root current = [b] ∧ comparison.Relates order a b
  | .matching operand pattern, current =>
      ∃ text, operand.standsFor order root current = [.string text] ∧
        pattern.occursIn text = true
  | .bare (.literal value), _ => value ≠ .null ∧ value ≠ .bool false
  | .bare (.path anchor steps), current =>
      (Operand.path anchor steps).standsFor order root current ≠ []
  | .and left right, current =>
      left.TrueOf order root current ∧ right.TrueOf order root current
  | .or left right, current =>
      left.TrueOf order root current ∨ right.TrueOf order root current
  | .not inner, current => ¬inner.TrueOf order root current

/-- The values that an operand stands for: itself, or all that its path leads to, from
the root of the document or from the value under test. -/
noncomputable def Operand.standsFor (order : Number → Number → Ordering) (root : Json) :
    Operand → Json → List Json
  | .literal value, _ => [.ofScalar value]
  | .path .root steps, _ => Step.allLeadTo order root steps root
  | .path .current steps, current => Step.allLeadTo order root steps current

end

mutual

/-- Whether a step compares no two numbers that blur. -/
def Step.Clear (root : Json) : Step → Json → Prop
  | .filter predicate, value => ∀ child ∈ value.children, predicate.Clear root child.2
  | .key _, _ | .index _, _ | .wildcard, _ | .descent, _ | .slice _, _ | .union _, _ =>
      True

/-- Whether some steps compare no two numbers that blur, on any of the values that
they lead to. -/
def Step.AllClear (root : Json) : List Step → Json → Prop
  | [], _ => True
  | step :: rest, value =>
      step.Clear root value ∧
        ∀ next ∈ step.leadsTo Number.exactOrder root value, Step.AllClear root rest next

/-- Whether a predicate compares no two numbers that blur, in its operands too. -/
def Predicate.Clear (root : Json) : Predicate → Json → Prop
  | .compare _ left right, current =>
      left.Clear root current ∧ right.Clear root current ∧
        ∀ a b, left.standsFor Number.exactOrder root current = [.number a] →
          right.standsFor Number.exactOrder root current = [.number b] → ¬ a.Blurred b
  | .matching operand _, current => operand.Clear root current
  | .bare operand, current => operand.Clear root current
  | .and left right, current => left.Clear root current ∧ right.Clear root current
  | .or left right, current => left.Clear root current ∧ right.Clear root current
  | .not inner, current => inner.Clear root current

/-- Whether the path of an operand compares no two numbers that blur. -/
def Operand.Clear (root : Json) : Operand → Json → Prop
  | .literal _, _ => True
  | .path .root steps, _ => Step.AllClear root steps root
  | .path .current steps, current => Step.AllClear root steps current

end

/-! Comparisons -/

namespace Comparison

variable {comparison : Comparison} {a b : Json}

theorem decides_iff_relates :
    comparison.decides a b = true ↔ comparison.Relates Number.blurredOrder a b := by
  cases a <;> cases b
  case null.null => simp [decides, Relates, Json.scalar?, Scalar.cmp?, holds_iff]
  case bool.bool a b => exact comparison.holds_iff_order a b
  case number.number a b =>
      rw [Relates, ← Number.cmp_eq_blurredOrder]
      exact comparison.holds_iff (a.cmp b)
  case string.string a b => exact comparison.holds_iff_order a b
  all_goals simp [decides, Relates, Json.scalar?, Scalar.cmp?]

theorem relates_exact_iff
    (hclear : ∀ x y, a = .number x → b = .number y → ¬ x.Blurred y) :
    comparison.Relates Number.exactOrder a b ↔
      comparison.Relates Number.blurredOrder a b := by
  cases a <;> cases b
  case number.number x y =>
      rw [Relates, Relates, Number.blurredOrder, if_neg (hclear x y rfl rfl)]
  all_goals rfl

end Comparison

/-! Steps -/

theorem Step.values_cons {root : Json} {step : Step} (hstep : step ≠ .descent)
    (rest : List Step) (value : Json) :
    Step.values root (step :: rest) value =
      ((step.selected root value).map (·.2)).flatMap (Step.values root rest) := by
  rw [values, located_cons root hstep, List.map_flatMap, List.flatMap_map]
  apply List.flatMap_congr
  intro child _
  rw [List.map_map]
  rfl

/-- A descent leads to everything from which the other steps go on. -/
theorem Step.values_descent (root : Json) (rest : List Step) (value : Json) :
    Step.values root (.descent :: rest) value =
      value.everything.flatMap (Step.values root rest) := by
  induction value using Json.childInduction with
  | step value ih =>
      rw [Json.everything_eq, List.flatMap_cons, List.flatMap_assoc, values,
        located_descent, List.map_append, List.map_flatMap]
      congr 1
      apply List.flatMap_congr
      intro child hchild
      rw [← ih child hchild, List.map_map]
      rfl

/-! Predicates hold where they are true with blurred numbers, from the
operands' values up -/

mutual

theorem Step.leadsTo_eq_map_selected (root : Json) : (step : Step) → step ≠ .descent →
    ∀ value,
      step.leadsTo Number.blurredOrder root value = (step.selected root value).map (·.2)
  | .key _, _, value => by rw [Step.leadsTo, Step.selected]
  | .index _, _, value => by rw [Step.leadsTo, Step.selected]
  | .wildcard, _, value => by rw [Step.leadsTo, Step.selected]
  | .descent, hstep, _ => absurd rfl hstep
  | .slice _, _, value => by rw [Step.leadsTo, Step.selected]
  | .union _, _, value => by rw [Step.leadsTo, Step.selected]
  | .filter predicate, _, value => by
      classical
      rw [Step.leadsTo, Step.selected, List.filter_map]
      congr 1
      apply List.filter_congr
      intro child _
      rw [Bool.eq_iff_iff, Function.comp_apply, decide_eq_true_iff]
      exact (Predicate.holds_iff_true root predicate child.2).symm

theorem Step.allLeadTo_eq_values (root : Json) : (steps : List Step) →
    ∀ value, Step.allLeadTo Number.blurredOrder root steps value =
      Step.values root steps value
  | [], value => by
      rw [Step.allLeadTo, Step.values, located_nil]
      rfl
  | step :: rest, value => by
      rw [Step.allLeadTo, funext (Step.allLeadTo_eq_values root rest)]
      by_cases hstep : step = .descent
      · rw [hstep, Step.leadsTo, Step.values_descent]
      · rw [Step.leadsTo_eq_map_selected root step hstep, Step.values_cons hstep]

theorem Predicate.holds_iff_true (root : Json) : (predicate : Predicate) →
    ∀ current,
      predicate.holds root current = true ↔
        predicate.TrueOf Number.blurredOrder root current
  | .compare _ left right, current => by
      simp only [Predicate.holds_compare_iff, Predicate.TrueOf,
        Operand.standsFor_eq_values root left, Operand.standsFor_eq_values root right,
        Comparison.decides_iff_relates]
  | .matching operand _, current => by
      rw [Predicate.holds_matching_iff, Predicate.TrueOf,
        Operand.standsFor_eq_values root operand]
  | .bare (.literal _), current => by
      rw [Predicate.holds_bare_literal_iff, Predicate.TrueOf]
  | .bare (.path anchor steps), current => by
      rw [Predicate.holds_bare_path_iff, Predicate.TrueOf,
        Operand.standsFor_eq_values root (.path anchor steps)]
  | .and left right, current => by
      rw [Predicate.holds, Predicate.TrueOf, Bool.and_eq_true,
        Predicate.holds_iff_true root left, Predicate.holds_iff_true root right]
  | .or left right, current => by
      rw [Predicate.holds, Predicate.TrueOf, Bool.or_eq_true,
        Predicate.holds_iff_true root left, Predicate.holds_iff_true root right]
  | .not inner, current => by
      rw [Predicate.holds, Predicate.TrueOf, ← Predicate.holds_iff_true root inner,
        Bool.not_eq_true', Bool.not_eq_true]

theorem Operand.standsFor_eq_values (root : Json) : (operand : Operand) →
    ∀ current,
      operand.standsFor Number.blurredOrder root current = operand.values root current
  | .literal _, _ => by rw [Operand.standsFor, Operand.values]
  | .path .root steps, _ => by
      rw [Operand.standsFor, Operand.values, Step.allLeadTo_eq_values root steps]
      rfl
  | .path .current steps, _ => by
      rw [Operand.standsFor, Operand.values, Step.allLeadTo_eq_values root steps]
      rfl

end

/-! Where no numbers blur, the two orders make no difference -/

mutual

theorem Step.leadsTo_eq_of_clear (root : Json) : (step : Step) →
    ∀ value, step.Clear root value →
      step.leadsTo Number.blurredOrder root value =
        step.leadsTo Number.exactOrder root value
  | .key _, _, _ | .index _, _, _ | .wildcard, _, _ | .descent, _, _ | .slice _, _, _
  | .union _, _, _ => by rw [Step.leadsTo, Step.leadsTo]
  | .filter predicate, value, hclear => by
      rw [Step.leadsTo, Step.leadsTo]
      rw [Step.Clear] at hclear
      apply List.filter_congr
      intro candidate hcandidate
      obtain ⟨child, hchild, rfl⟩ := List.mem_map.1 hcandidate
      exact decide_eq_decide.2
        (Predicate.trueOf_iff_of_clear root predicate child.2 (hclear child hchild))

theorem Step.allLeadTo_eq_of_clear (root : Json) : (steps : List Step) →
    ∀ value, Step.AllClear root steps value →
      Step.allLeadTo Number.blurredOrder root steps value =
        Step.allLeadTo Number.exactOrder root steps value
  | [], _, _ => by rw [Step.allLeadTo, Step.allLeadTo]
  | step :: rest, value, hclear => by
      rw [Step.AllClear] at hclear
      rw [Step.allLeadTo, Step.allLeadTo,
        Step.leadsTo_eq_of_clear root step value hclear.1]
      apply List.flatMap_congr
      intro next hnext
      exact Step.allLeadTo_eq_of_clear root rest next (hclear.2 next hnext)

theorem Predicate.trueOf_iff_of_clear (root : Json) : (predicate : Predicate) →
    ∀ current, predicate.Clear root current →
      (predicate.TrueOf Number.blurredOrder root current ↔
        predicate.TrueOf Number.exactOrder root current)
  | .compare _ left right, current, hclear => by
      rw [Predicate.Clear] at hclear
      obtain ⟨hleft, hright, hnumbers⟩ := hclear
      rw [Predicate.TrueOf, Predicate.TrueOf,
        Operand.standsFor_eq_of_clear root left current hleft,
        Operand.standsFor_eq_of_clear root right current hright]
      refine exists_congr fun a => exists_congr fun b => and_congr_right fun ha =>
        and_congr_right fun hb => ?_
      refine (Comparison.relates_exact_iff ?_).symm
      rintro x y rfl rfl
      exact hnumbers x y ha hb
  | .matching operand _, current, hclear => by
      rw [Predicate.Clear] at hclear
      rw [Predicate.TrueOf, Predicate.TrueOf,
        Operand.standsFor_eq_of_clear root operand current hclear]
  | .bare (.literal _), _, _ => by rw [Predicate.TrueOf, Predicate.TrueOf]
  | .bare (.path anchor steps), current, hclear => by
      rw [Predicate.Clear] at hclear
      rw [Predicate.TrueOf, Predicate.TrueOf,
        Operand.standsFor_eq_of_clear root (.path anchor steps) current hclear]
  | .and left right, current, hclear => by
      rw [Predicate.Clear] at hclear
      rw [Predicate.TrueOf, Predicate.TrueOf,
        Predicate.trueOf_iff_of_clear root left current hclear.1,
        Predicate.trueOf_iff_of_clear root right current hclear.2]
  | .or left right, current, hclear => by
      rw [Predicate.Clear] at hclear
      rw [Predicate.TrueOf, Predicate.TrueOf,
        Predicate.trueOf_iff_of_clear root left current hclear.1,
        Predicate.trueOf_iff_of_clear root right current hclear.2]
  | .not inner, current, hclear => by
      rw [Predicate.Clear] at hclear
      rw [Predicate.TrueOf, Predicate.TrueOf,
        Predicate.trueOf_iff_of_clear root inner current hclear]

theorem Operand.standsFor_eq_of_clear (root : Json) : (operand : Operand) →
    ∀ current, operand.Clear root current →
      operand.standsFor Number.blurredOrder root current =
        operand.standsFor Number.exactOrder root current
  | .literal _, _, _ => by rw [Operand.standsFor, Operand.standsFor]
  | .path .root steps, _, hclear => by
      rw [Operand.Clear] at hclear
      rw [Operand.standsFor, Operand.standsFor,
        Step.allLeadTo_eq_of_clear root steps root hclear]
  | .path .current steps, current, hclear => by
      rw [Operand.Clear] at hclear
      rw [Operand.standsFor, Operand.standsFor,
        Step.allLeadTo_eq_of_clear root steps current hclear]

end

namespace Path

theorem query_eq_allLeadTo (path : Path) (document : Json) :
    path.query document =
      Step.allLeadTo Number.blurredOrder document path.steps document := by
  rw [Step.allLeadTo_eq_values, query_eq_map_value, queryLocated_eq_located]
  rfl

end Path

/-- A predicate holds of a value exactly if it is true of it, by the complete lists of
what its operands stand for and with an integer equal to the double that it is rounded
to.  Where no two such numbers are compared, on the way to those lists either, it holds
exactly if it is true of the value by the order of numbers as they are.  The lists are
what queries answer. -/
theorem Predicate.holds_iff_trueOf (root : Json) :
    (∀ (predicate : Predicate) (current : Json),
      (predicate.holds root current = true ↔
        predicate.TrueOf Number.blurredOrder root current) ∧
      (predicate.Clear root current →
        (predicate.holds root current = true ↔
          predicate.TrueOf Number.exactOrder root current))) ∧
    ∀ path : Path,
      path.query root = Step.allLeadTo Number.blurredOrder root path.steps root ∧
      (Step.AllClear root path.steps root →
        path.query root = Step.allLeadTo Number.exactOrder root path.steps root) := by
  constructor
  · intro predicate current
    have hholds := Predicate.holds_iff_true root predicate current
    exact ⟨hholds, fun hclear =>
      hholds.trans (trueOf_iff_of_clear root predicate current hclear)⟩
  · intro path
    have hquery := path.query_eq_allLeadTo root
    exact ⟨hquery, fun hclear =>
      hquery.trans (Step.allLeadTo_eq_of_clear root path.steps root hclear)⟩

/-- A filter inside of a filter, against an element of the whole document: it holds of
the array with `7` as a double in it, and not of the one with `5` only. -/
theorem Predicate.holds_iff_trueOf_nested :
    let five : Number := .integer 5 (by decide)
    let seven : Number := .float (Binary64.ofInt 7 (by decide))
    let low : Json := .array [.number five]
    let high : Json := .array [.null, .number seven]
    let root : Json := .array [low, high]
    let above : Predicate := .bare (.path .current [.filter
      (.compare .greater (.path .current []) (.path .root [.index 0, .index 0]))])
    above.Clear root low ∧ above.Clear root high ∧
      ¬ above.TrueOf Number.exactOrder root low ∧
        above.TrueOf Number.exactOrder root high := by
  intro five seven low high root above
  have hbound : Step.allLeadTo Number.exactOrder root [.index 0, .index 0] root =
      [.number five] := rfl
  have hfive : ¬ five.Blurred five := id
  have hseven : ¬ seven.Blurred five := by decide +kernel
  have hclear : above.Clear root low ∧ above.Clear root high := by
    simp only [above, Clear, Operand.Clear, Step.AllClear, Step.Clear, Operand.standsFor,
      hbound]
    simp [low, high, Json.children, Step.allLeadTo, hfive, hseven]
  refine ⟨hclear.1, hclear.2, ?_, ?_⟩
  · rw [← ((holds_iff_trueOf root).1 above low).2 hclear.1]
    decide +kernel
  · rw [← ((holds_iff_trueOf root).1 above high).2 hclear.2]
    decide +kernel

/-- `2 ^ 53 + 1` is greater than `2 ^ 53`, but the predicate that says so of it does not
hold if the latter is a double. -/
theorem Predicate.trueOf_not_holds_of_rounded :
    let next : Number := .integer 9007199254740993 (by decide)
    let double : Number := .float (Binary64.ofInt 9007199254740992 (by decide))
    let root : Json := .array [.number next]
    let greater : Predicate := .compare .greater (.path .current [])
      (.literal (.number double))
    greater.TrueOf Number.exactOrder root (.number next) ∧
      greater.holds root (.number next) = false := by
  intro next double root greater
  refine ⟨⟨.number next, .number double, rfl, rfl, ?_⟩, by decide +kernel⟩
  have hdouble : double.value = (9007199254740992 : Int) :=
    Binary64.value_ofInt_of_natAbs_le (by decide)
  have hless : double.value < next.value := by
    rw [hdouble, Number.value]
    norm_num
  exact compare_gt_iff_gt.2 hless

end JsonSelect
