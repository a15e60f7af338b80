/-
What a descent reaches.  Followed by a step that takes every child, or every
child that a predicate holds for, it comes to each value below the root once and
to the root itself never.
-/
import Mathlib
import JsonSelect.Proofs.Selection.Order

namespace JsonSelect

/-- A location of one element more leads to a child of what the location leads to. -/
theorem Json.resolve?_concat_eq_some_iff {value child : Json} (hwf : value.WellFormed)
    {way : Location} {element : Element} :
    value.resolve? (way ++ [element]) = some child ↔
      ∃ node, value.resolve? way = some node ∧ (element, child) ∈ node.children := by
  rw [resolve?_append, Option.bind_eq_some_iff]
  apply exists_congr
  intro node
  apply and_congr_right
  intro hway
  rw [← child?_eq_some_iff (hwf.of_resolve? hway)]
  cases hchild : node.child? element <;> simp [resolve?, hchild]

variable {root : Json}

/-- A match is found where its location is, with the value to which the location leads. -/
theorem mem_located_iff {steps : List Step} {value : Json} (hwf : value.WellFormed)
    {found : Match} :
    found ∈ located root steps value ↔
      found.location ∈ Step.placed root steps value ∧
        value.resolve? found.location = some found.value := by
  constructor
  · intro hfound
    exact ⟨List.mem_map_of_mem hfound, resolve?_of_mem_located hwf hfound⟩
  · rintro ⟨hplaced, hvalue⟩
    obtain ⟨⟨location, value'⟩, hfound, rfl⟩ := List.mem_map.1 hplaced
    obtain rfl := Option.some.inj ((resolve?_of_mem_located hwf hfound).symm.trans hvalue)
    exact hfound

namespace Step

theorem mem_placed_singleton_iff {step : Step} (hstep : step ≠ .descent) {value : Json}
    {location : Location} :
    location ∈ placed root [step] value ↔
      ∃ child ∈ step.selected root value, location = [child.1] := by
  rw [mem_placed_cons_iff hstep]
  simp only [placed_nil, List.mem_singleton, exists_eq_left]

/-- A descent, and then a step that selects all children of a kind, find all values of
the kind but the root. -/
theorem mem_located_descent_iff {step : Step} (hstep : step ≠ .descent)
    (chosen : Json → Prop) (hselected : ∀ (value : Json) (child : Element × Json),
      child ∈ step.selected root value ↔ child ∈ value.children ∧ chosen child.2)
    {value : Json} (hwf : value.WellFormed) {found : Match} :
    found ∈ located root [.descent, step] value ↔
      found.location ≠ [] ∧ value.resolve? found.location = some found.value ∧
        chosen found.value := by
  obtain ⟨location, target⟩ := found
  rw [mem_located_iff hwf, mem_placed_descent_iff hwf]
  constructor
  · rintro ⟨⟨way, below, node, hway, hbelow, rfl⟩, htarget⟩
    obtain ⟨child, hchild, rfl⟩ := (mem_placed_singleton_iff hstep).1 hbelow
    obtain ⟨hmem, hchosen⟩ := (hselected node child).1 hchild
    have hreached := (Json.resolve?_concat_eq_some_iff hwf).2 ⟨node, hway, hmem⟩
    obtain rfl := Option.some.inj (hreached.symm.trans htarget)
    exact ⟨List.append_ne_nil_of_right_ne_nil way (List.cons_ne_nil _ _), htarget,
      hchosen⟩
  · rintro ⟨hne, htarget, hchosen⟩
    obtain ⟨way, last, rfl⟩ := (List.eq_nil_or_concat' location).resolve_left hne
    obtain ⟨node, hway, hmem⟩ := (Json.resolve?_concat_eq_some_iff hwf).1 htarget
    have hchild := (hselected node (last, target)).2 ⟨hmem, hchosen⟩
    exact ⟨⟨way, [last], node, hway,
      (mem_placed_singleton_iff hstep).2 ⟨_, hchild, rfl⟩, rfl⟩, htarget⟩

end Step

namespace Path

/-- A descent and a filter select the values below the root for which the predicate
holds, and a descent and a wildcard all values below the root: each of them once, at its
own location. -/
theorem mem_queryLocated_descent_iff {document : Json} (hwf : document.WellFormed) :
    (∀ predicate : Predicate,
      (∀ found : Match, found ∈ queryLocated ⟨[.descent, .filter predicate]⟩ document ↔
        found.location ≠ [] ∧ document.resolve? found.location = some found.value ∧
          predicate.holds document found.value = true) ∧
      (locate ⟨[.descent, .filter predicate]⟩ document).Nodup) ∧
    (∀ found : Match, found ∈ queryLocated ⟨[.descent, .wildcard]⟩ document ↔
      found.location ≠ [] ∧ document.resolve? found.location = some found.value) ∧
    (locate ⟨[.descent, .wildcard]⟩ document).Nodup := by
  have hfilter : ∀ predicate : Predicate, Step.filter predicate ≠ .descent := nofun
  have hwildcard : Step.wildcard ≠ .descent := nofun
  simp only [queryLocated_eq_located, locate_eq_placed]
  refine ⟨fun predicate => ⟨fun found => ?_, ?_⟩, fun found => ?_, ?_⟩
  · exact Step.mem_located_descent_iff (hfilter predicate)
      (fun value => predicate.holds document value = true)
        (fun _ _ => List.mem_filter) hwf
  · exact Step.nodup_placed (by simp) (by simp) hwf
  · have hall : found ∈ located document [.descent, .wildcard] document ↔ _ :=
      Step.mem_located_descent_iff hwildcard (fun _ => True)
        (fun value child => by simp [Step.selected]) hwf
    simpa using hall
  · exact Step.nodup_placed (by simp) (by simp) hwf

/-- An object of two arrays, one of them empty, and an empty object in the other. -/
def emptyContainers : Json :=
  .object [("a", .array [.bool true, .object []]), ("b", .array [])]

/-- The empty object is among the values that have no children. -/
theorem mem_queryLocated_descent_iff_emptyContainers :
    emptyContainers.WellFormed ∧
      locate ⟨[.descent, .filter (.not (.bare (.path .current [.wildcard])))]⟩
        emptyContainers = [[.key "b"], [.key "a", .index 0], [.key "a", .index 1]] ∧
      ⟨[.key "a", .index 1], .object []⟩ ∈
        queryLocated ⟨[.descent, .filter (.not (.bare (.path .current [.wildcard])))]⟩
          emptyContainers ∧
      (locate ⟨[.descent, .wildcard]⟩ emptyContainers).Nodup := by
  have hwf : emptyContainers.WellFormed := by
    simp [emptyContainers, Json.WellFormed, Json.AllWellFormed, Json.MembersWellFormed,
      Json.Members.keys]
  have hlocate : locate ⟨[.descent, .filter (.not (.bare (.path .current [.wildcard])))]⟩
      emptyContainers = [[.key "b"], [.key "a", .index 0], [.key "a", .index 1]] := by cbv
  have hholds : (Predicate.not (.bare (.path .current [.wildcard]))).holds emptyContainers
      (.object []) = true := by cbv
  obtain ⟨hfilter, -, hnodup⟩ := mem_queryLocated_descent_iff hwf
  have hfound := ((hfilter _).1 ⟨[.key "a", .index 1], .object []⟩).2
    ⟨List.cons_ne_nil _ _, rfl, hholds⟩
  exact ⟨hwf, hlocate, hfound, hnodup⟩

end Path

end JsonSelect
