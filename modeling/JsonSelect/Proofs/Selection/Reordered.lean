/-
Selection does not depend on the order of members.  In two documents that
differ only in that order every step selects children that correspond to each
other, so the same predicates hold, and the matches are the same but for the
order in which they come.
-/
import Mathlib
import JsonSelect.Proofs.Location.Reordered
import JsonSelect.Proofs.Selection.Places
import JsonSelect.Proofs.Selection.Predicates

namespace JsonSelect

open Json (Reordered SameChild)

/-- Matches at the same location whose values differ in the order of members only. -/
def SameMatch (found found' : Match) : Prop :=
  found.location = found'.location ∧ found.value.Reordered found'.value

/-- Two lists whose entries, in some order, stand in a relation one by one. -/
def Corresponds {α β : Type} (r : α → β → Prop) (xs : List α) (ys : List β) : Prop :=
  Multiset.Rel r (xs : Multiset α) (ys : Multiset β)

namespace Corresponds

variable {α β γ δ : Type} {r : α → β → Prop} {p : γ → δ → Prop} {xs : List α}
    {ys : List β}

theorem nil : Corresponds r [] [] :=
  Multiset.Rel.zero

theorem singleton {x : α} {y : β} (hxy : r x y) : Corresponds r [x] [y] :=
  Multiset.Rel.cons hxy Multiset.Rel.zero

theorem append {xs' : List α} {ys' : List β} (h : Corresponds r xs ys)
    (h' : Corresponds r xs' ys') : Corresponds r (xs ++ xs') (ys ++ ys') := by
  rw [Corresponds, ← Multiset.coe_add, ← Multiset.coe_add]
  exact Multiset.Rel.add h h'

theorem map {f : α → γ} {g : β → δ} (hfg : ∀ x y, r x y → p (f x) (g y))
    (h : Corresponds r xs ys) : Corresponds p (xs.map f) (ys.map g) := by
  rw [Corresponds, ← Multiset.map_coe, ← Multiset.map_coe, Multiset.rel_map]
  exact Multiset.Rel.mono h fun x _ y _ => hfg x y

theorem flatMap {f : α → List γ} {g : β → List δ}
    (hfg : ∀ x ∈ xs, ∀ y, r x y → Corresponds p (f x) (g y)) (h : Corresponds r xs ys) :
    Corresponds p (xs.flatMap f) (ys.flatMap g) := by
  have hmem : Corresponds (fun x y => x ∈ xs ∧ r x y) xs ys :=
    Multiset.Rel.mono h fun x hx y _ hxy => ⟨hx, hxy⟩
  rw [Corresponds, ← Multiset.coe_bind, ← Multiset.coe_bind]
  exact Multiset.rel_bind (fun x y hxy => hfg x hxy.1 y hxy.2) hmem

theorem filter {keep : α → Bool} {keep' : β → Bool}
    (hkeep : ∀ x y, r x y → keep x = keep' y) (h : Corresponds r xs ys) :
    Corresponds r (xs.filter keep) (ys.filter keep') := by
  have hxs := Multiset.filter_coe (keep · = true) xs
  have hys := Multiset.filter_coe (keep' · = true) ys
  simp only [Bool.decide_eq_true] at hxs hys
  rw [Corresponds, ← hxs, ← hys, Multiset.filter_eq_bind, Multiset.filter_eq_bind]
  apply Multiset.rel_bind _ h
  intro x y hxy
  simp only [hkeep x y hxy]
  cases keep' y with
  | true => exact singleton hxy
  | false => exact nil

theorem length_eq (h : Corresponds r xs ys) : xs.length = ys.length :=
  Multiset.card_eq_card_of_rel h

theorem exists_of_mem (h : Corresponds r xs ys) {x : α} (hx : x ∈ xs) : ∃ y ∈ ys, r x y :=
  Multiset.exists_mem_of_rel_of_mem h hx

theorem exists_of_mem_right (h : Corresponds r xs ys) {y : β} (hy : y ∈ ys) :
    ∃ x ∈ xs, r x y :=
  Multiset.exists_mem_of_rel_of_mem (Multiset.rel_flip.2 h) hy

theorem perm_map {f : α → γ} {g : β → γ} (hfg : ∀ x y, r x y → f x = g y)
    (h : Corresponds r xs ys) : (xs.map f).Perm (ys.map g) := by
  have heq : Corresponds (· = ·) (xs.map f) (ys.map g) := h.map hfg
  rwa [Corresponds, Multiset.rel_eq, Multiset.coe_eq_coe] at heq

/-- What is found first corresponds, if all that could be found does. -/
theorem find? {keep : α → Bool} {keep' : β → Bool}
    (hkeep : ∀ x y, r x y → keep x = keep' y)
    (hkept : ∀ x ∈ xs, ∀ y ∈ ys, keep x = true → keep' y = true → r x y)
    (h : Corresponds r xs ys) :
    Corresponds r (xs.find? keep).toList (ys.find? keep').toList := by
  cases hx : xs.find? keep with
  | none =>
      have hnone : ys.find? keep' = none := by
        rw [List.find?_eq_none] at hx ⊢
        intro y hy
        obtain ⟨x, hmem, hxy⟩ := h.exists_of_mem_right hy
        exact hkeep x y hxy ▸ hx x hmem
      rw [hnone]
      exact nil
  | some x =>
      cases hy : ys.find? keep' with
      | none =>
          obtain ⟨y, hmem, hxy⟩ := h.exists_of_mem (List.mem_of_find?_eq_some hx)
          rw [List.find?_eq_none] at hy
          exact absurd (hkeep x y hxy ▸ List.find?_some hx) (hy y hmem)
      | some y =>
          exact singleton
            (hkept x (List.mem_of_find?_eq_some hx) y (List.mem_of_find?_eq_some hy)
            (List.find?_some hx) (List.find?_some hy))

/-- What is said of the only entry of a list can be said of the entry that
corresponds to it. -/
theorem exists_only_iff {P : α → Prop} {Q : β → Prop} (hPQ : ∀ x y, r x y → (P x ↔ Q y))
    (h : Corresponds r xs ys) : (∃ x, xs = [x] ∧ P x) ↔ ∃ y, ys = [y] ∧ Q y := by
  constructor
  · rintro ⟨x, rfl, hx⟩
    obtain ⟨y, rfl⟩ := List.length_eq_one_iff.1 h.length_eq.symm
    obtain ⟨y', hy', hxy⟩ := h.exists_of_mem (List.mem_singleton_self x)
    rw [List.mem_singleton] at hy'
    exact ⟨y, rfl, (hPQ x y (hy' ▸ hxy)).1 hx⟩
  · rintro ⟨y, rfl, hy⟩
    obtain ⟨x, rfl⟩ := List.length_eq_one_iff.1 h.length_eq
    obtain ⟨y', hy', hxy⟩ := h.exists_of_mem (List.mem_singleton_self x)
    rw [List.mem_singleton] at hy'
    exact ⟨x, rfl, (hPQ x y (hy' ▸ hxy)).2 hy⟩

end Corresponds

/-! One step -/

theorem Item.eq_of_names {size : Nat} {item : Item} {element element' : Element}
    (hnames : item.names size element = true)
    (hnames' : item.names size element' = true) : element = element' := by
  cases item <;> cases element <;> cases element' <;> simp_all [names]
  omega

namespace Json.Reordered

variable {root root' value value' : Json}

theorem children (hsame : value.Reordered value') :
    Corresponds SameChild value.children value'.children :=
  hsame.rel_children

/-- An item names one element at most, so it does not matter which child comes first. -/
theorem item_selected (hsame : value.Reordered value') (item : Item) :
    Corresponds SameChild (item.selected value) (item.selected value') := by
  rw [Item.selected, Item.selected, hsame.children.length_eq]
  apply hsame.children.find?
  · exact fun child child' hchild => congrArg _ hchild.1
  · intro child hchild child' hchild' hnames hnames'
    have helement := Item.eq_of_names hnames hnames'
    exact ⟨helement, hsame.of_mem_children hchild hchild' helement⟩

/-- What a step selects, where the predicate of a filter holds of the same candidates. -/
theorem step_selected (hsame : value.Reordered value') {step : Step}
    (hfilter : ∀ predicate, step = .filter predicate → ∀ current current' : Json,
      current.Reordered current' →
        predicate.holds root current = predicate.holds root' current') :
    Corresponds SameChild (step.selected root value) (step.selected root' value') := by
  cases step with
  | key name => exact hsame.item_selected (.key name)
  | index position => exact hsame.item_selected (.index position)
  | wildcard => exact hsame.children
  | descent => exact Corresponds.nil
  | slice range =>
      rw [Step.selected, Step.selected, hsame.children.length_eq]
      exact hsame.children.filter fun child child' hchild => congrArg _ hchild.1
  | union items =>
      induction items with
      | nil => exact Corresponds.nil
      | cons item items ih =>
          exact (hsame.item_selected item).append (ih fun _ h => nomatch h)
  | filter predicate =>
      exact hsame.children.filter fun child child' hchild =>
        hfilter predicate rfl child.2 child'.2 hchild.2

/-- What some steps find, where the first selects what corresponds and the others find
what corresponds. -/
theorem located_cons_of {step : Step} {rest : List Step}
    (hstep : ∀ value value' : Json, value.Reordered value' →
      Corresponds SameChild (step.selected root value) (step.selected root' value'))
    (hrest : ∀ value value' : Json, value.Reordered value' →
      Corresponds SameMatch (located root rest value) (located root' rest value'))
    (hsame : value.Reordered value') :
    Corresponds SameMatch (located root (step :: rest) value)
      (located root' (step :: rest) value') := by
  have hunder : ∀ {steps : List Step} {child child' : Element × Json},
      SameChild child child' →
      Corresponds SameMatch (located root steps child.2) (located root' steps child'.2) →
      Corresponds SameMatch ((located root steps child.2).map (Match.under child.1))
        ((located root' steps child'.2).map (Match.under child'.1)) := by
    intro steps child child' hchild hfound
    exact hfound.map fun found found' h => ⟨congrArg₂ _ hchild.1 h.1, h.2⟩
  by_cases hdescent : step = .descent
  · subst hdescent
    induction value using Json.childInduction generalizing value' with
    | step value ih =>
        rw [located_descent, located_descent]
        apply (hrest value value' hsame).append
        apply hsame.children.flatMap
        intro child hchild child' hcorresponds
        exact hunder hcorresponds (ih child hchild hcorresponds.2)
  · rw [located_cons root hdescent, located_cons root' hdescent]
    exact (hstep value value' hsame).flatMap fun child _ child' hchild =>
      hunder hchild (hrest child.2 child'.2 hchild.2)

/-- A value that differs from a scalar in the order of members only is that scalar. -/
theorem scalar?_eq (hsame : value.Reordered value') : value.scalar? = value'.scalar? := by
  cases hsame with
  | scalar _ => rfl
  | array _ _ => rfl
  | object _ _ => rfl

end Json.Reordered

/-- Whether a pattern is found depends on the only value of the operand. -/
theorem Predicate.holds_matching_iff_only {root current : Json} {operand : Operand}
    {pattern : Pattern} :
    (matching operand pattern).holds root current = true ↔
      ∃ value, operand.values root current = [value] ∧
        ∃ text, value.scalar? = some (.string text) ∧ pattern.occursIn text = true := by
  simp only [holds_matching_iff, Json.scalar?_eq_some_iff, Json.ofScalar]
  constructor
  · rintro ⟨text, hvalues, hoccurs⟩
    exact ⟨_, hvalues, text, rfl, hoccurs⟩
  · rintro ⟨_, hvalues, text, rfl, hoccurs⟩
    exact ⟨text, hvalues, hoccurs⟩

/-! The whole of a path, with the predicates in it -/

mutual

theorem Step.selected_corresponds {root root' : Json} (hroot : root.Reordered root') :
    (step : Step) → ∀ value value' : Json, value.Reordered value' →
      Corresponds SameChild (step.selected root value) (step.selected root' value')
  | .key _, _, _, hsame => hsame.step_selected fun _ h => nomatch h
  | .index _, _, _, hsame => hsame.step_selected fun _ h => nomatch h
  | .wildcard, _, _, hsame => hsame.step_selected fun _ h => nomatch h
  | .descent, _, _, hsame => hsame.step_selected fun _ h => nomatch h
  | .slice _, _, _, hsame => hsame.step_selected fun _ h => nomatch h
  | .union _, _, _, hsame => hsame.step_selected fun _ h => nomatch h
  | .filter predicate, _, _, hsame =>
      hsame.step_selected fun _ h current current' hcurrent =>
      Step.filter.inj h ▸
        Predicate.holds_eq_of_reordered hroot predicate current current' hcurrent

theorem located_corresponds {root root' : Json} (hroot : root.Reordered root') :
    (steps : List Step) → ∀ value value' : Json, value.Reordered value' →
      Corresponds SameMatch (located root steps value) (located root' steps value')
  | [], _, _, hsame => by
      rw [located_nil, located_nil]
      exact Corresponds.singleton ⟨rfl, hsame⟩
  | step :: rest, _, _, hsame =>
      hsame.located_cons_of (Step.selected_corresponds hroot step)
        (located_corresponds hroot rest)

theorem Operand.values_correspond {root root' : Json} (hroot : root.Reordered root') :
    (operand : Operand) → ∀ current current' : Json, current.Reordered current' →
      Corresponds Reordered (operand.values root current) (operand.values root' current')
  | .literal _, _, _, _ =>
      Corresponds.singleton (.scalar (Json.scalar?_eq_some_iff.2 rfl))
  | .path .root steps, _, _, _ =>
      (located_corresponds hroot steps root root' hroot).map fun _ _ h => h.2
  | .path .current steps, current, current', hsame =>
      (located_corresponds hroot steps current current' hsame).map fun _ _ h => h.2

theorem Predicate.holds_eq_of_reordered {root root' : Json}
    (hroot : root.Reordered root') :
    (predicate : Predicate) → ∀ current current' : Json, current.Reordered current' →
      predicate.holds root current = predicate.holds root' current'
  | .compare comparison left right, current, current', hsame => by
      have hleft := Operand.values_correspond hroot left current current' hsame
      have hright := Operand.values_correspond hroot right current current' hsame
      rw [Bool.eq_iff_iff, Predicate.holds_compare_iff, Predicate.holds_compare_iff]
      simp only [exists_and_left]
      apply hleft.exists_only_iff
      intro a a' ha
      apply hright.exists_only_iff
      intro b b' hb
      rw [Comparison.decides, Comparison.decides, ha.scalar?_eq, hb.scalar?_eq]
  | .matching operand pattern, current, current', hsame => by
      have hoperand := Operand.values_correspond hroot operand current current' hsame
      rw [Bool.eq_iff_iff, Predicate.holds_matching_iff_only,
        Predicate.holds_matching_iff_only]
      apply hoperand.exists_only_iff
      intro value value' hvalue
      rw [hvalue.scalar?_eq]
  | .bare (.literal _), _, _, _ => by
      rw [Bool.eq_iff_iff, Predicate.holds_bare_literal_iff,
        Predicate.holds_bare_literal_iff]
  | .bare (.path anchor steps), current, current', hsame => by
      have hlength :=
        (Operand.values_correspond hroot
          (.path anchor steps) current current' hsame).length_eq
      rw [Bool.eq_iff_iff, Predicate.holds_bare_path_iff, Predicate.holds_bare_path_iff,
        ← List.length_pos_iff, ← List.length_pos_iff, hlength]
  | .and left right, current, current', hsame => by
      rw [Predicate.holds, Predicate.holds,
        Predicate.holds_eq_of_reordered hroot left current current' hsame,
        Predicate.holds_eq_of_reordered hroot right current current' hsame]
  | .or left right, current, current', hsame => by
      rw [Predicate.holds, Predicate.holds,
        Predicate.holds_eq_of_reordered hroot left current current' hsame,
        Predicate.holds_eq_of_reordered hroot right current current' hsame]
  | .not inner, current, current', hsame => by
      rw [Predicate.holds, Predicate.holds,
        Predicate.holds_eq_of_reordered hroot inner current current' hsame]

end

/-! Queries -/

/-- A path selects the same in two documents but for the order of its matches and of the
members in them, and every predicate says the same in both. -/
structure SelectsAlike (path : Path) (document document' : Json) : Prop where
  locations : (path.locate document).Perm (path.locate document')
  values : ∀ found ∈ path.queryLocated document, ∀ found' ∈ path.queryLocated document',
    found.location = found'.location → found.value.Reordered found'.value
  hasMatch : path.hasMatch document = path.hasMatch document'
  holds : ∀ (predicate : Predicate) (current current' : Json),
    current.Reordered current' →
    predicate.holds document current = predicate.holds document' current'

namespace Path

theorem selectsAlike {path : Path} {document document' : Json} (hwf : document.WellFormed)
    (hsame : document.Reordered document') : SelectsAlike path document document' := by
  have hfound : Corresponds SameMatch (path.queryLocated document)
      (path.queryLocated document') := by
    rw [queryLocated_eq_located, queryLocated_eq_located]
    exact located_corresponds hsame path.steps document document' hsame
  constructor
  · exact hfound.perm_map fun _ _ h => h.1
  · intro found hmem found' hmem' hlocation
    obtain ⟨other, hother, hlocation', hvalue⟩ := hfound.exists_of_mem_right hmem'
    rw [queryLocated_eq_located] at hmem hother
    have hresolve := resolve?_of_mem_located hwf hmem
    rw [hlocation, ← hlocation', resolve?_of_mem_located hwf hother,
      Option.some.injEq] at hresolve
    exact hresolve ▸ hvalue
  · rw [Bool.eq_iff_iff, hasMatch_iff, hasMatch_iff, ← List.length_pos_iff,
      ← List.length_pos_iff, hfound.length_eq]
  · exact fun predicate => Predicate.holds_eq_of_reordered hsame predicate

/-- In documents that differ only in the order of members a path selects the same; so it
does where all members are put in the order of their keys. -/
theorem selectsAlike_of_reordered (path : Path) (document : Json)
    (hwf : document.WellFormed) :
    (∀ document' : Json, document.Reordered document' →
      SelectsAlike path document document') ∧
      SelectsAlike path document document.sortKeys :=
  ⟨fun _ hsame => selectsAlike hwf hsame, selectsAlike hwf (Json.reordered_sortKeys hwf)⟩

/-- Of the two members one has a child `x`, and the other has true as its only child.  In
which order they and their children come decides only in which order they are found. -/
theorem selectsAlike_of_sorted :
    ∃ (path : Path) (document : Json),
      path.steps = [.filter (.or (.bare (.path .current [.key "x"]))
        (.compare .equal (.path .current [.wildcard]) (.literal (.bool true))))] ∧
      document = .object [("b", .object [("y", .bool true), ("x", .null)]),
        ("a", .object [("y", .bool true)])] ∧
      document.WellFormed ∧
      path.locate document = [[.key "b"], [.key "a"]] ∧
      path.locate document.sortKeys = [[.key "a"], [.key "b"]] ∧
      SelectsAlike path document document.sortKeys := by
  refine ⟨⟨_⟩, _, rfl, rfl, ?_⟩
  have hwf : (Json.object [("b", .object [("y", .bool true), ("x", .null)]),
      ("a", .object [("y", .bool true)])]).WellFormed := by
    simp [Json.WellFormed, Json.MembersWellFormed, Json.Members.keys]
  refine ⟨hwf, ?_, ?_, (selectsAlike_of_reordered _ _ hwf).2⟩
  · cbv
  · cbv

end Path
end JsonSelect
