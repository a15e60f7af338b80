/-
The order of matches.  A match comes before all that are found below it.  Where
no union lists children in an order of its own and no descent comes back to what
it has passed, locations are found in document order.  One descent may go back
in that order, but still no location is found twice.
-/
import Mathlib
import JsonSelect.Proofs.Selection.Ancestors

namespace JsonSelect

namespace Path

/-- Whatever the path, the first match at a location comes before every match below it. -/
theorem findIdx_queryLocated_lt (path : Path) {document : Json}
    (hwf : document.WellFormed)
    {outer inner : Match} {place : Nat} (houter : outer ∈ path.queryLocated document)
    (hinner : (path.queryLocated document)[place]? = some inner)
    (hbegins : outer.location <+: inner.location)
    (hne : outer.location ≠ inner.location) :
    (path.queryLocated document).findIdx (fun found => found.location = outer.location) <
      place := by
  have hlocations : ∀ location, (path.queryLocated document).findIdx (fun found =>
      found.location = location) = (path.locate document).idxOf location := by
    intro location
    simp [locate, List.idxOf, List.findIdx_map, Function.comp_def, beq_eq_decide]
  obtain ⟨hplace, hfound⟩ := List.getElem?_eq_some_iff.1 hinner
  have hbefore :=
    path.ancestorsFirst_locate hwf outer.location (List.mem_map_of_mem houter)
    inner.location (List.mem_map_of_mem (List.mem_of_getElem? hinner)) hbegins hne
  rw [← hlocations, ← hlocations] at hbefore
  have hfirst : (path.queryLocated document).findIdx (fun found =>
      found.location = inner.location) ≤ place := by
    by_contra hlater
    simpa [hfound] using List.not_of_lt_findIdx (Nat.lt_of_not_le hlater)
  exact Nat.lt_of_lt_of_le hbefore hfirst

/-- Four arrays, one in the other. -/
def nestedArrays : Json :=
  .array [.array [.array [.array [.null]]]]

/-- Both descents may end at several values.  The innermost array is found before the
value in it, and once more after it. -/
theorem findIdx_queryLocated_lt_nestedArrays :
    nestedArrays.WellFormed ∧
      Path.locate ⟨[.descent, .wildcard, .descent, .wildcard]⟩ nestedArrays =
        [[.index 0, .index 0], [.index 0, .index 0, .index 0],
          [.index 0, .index 0, .index 0, .index 0], [.index 0, .index 0, .index 0],
          [.index 0, .index 0, .index 0, .index 0],
          [.index 0, .index 0, .index 0, .index 0]] ∧
      ⟨[.index 0, .index 0, .index 0], .array [.null]⟩ ∈
        Path.queryLocated ⟨[.descent, .wildcard, .descent, .wildcard]⟩ nestedArrays ∧
      (Path.queryLocated ⟨[.descent, .wildcard, .descent, .wildcard]⟩ nestedArrays)[2]? =
        some ⟨[.index 0, .index 0, .index 0, .index 0], .null⟩ ∧
      [Element.index 0, .index 0, .index 0] <+: [.index 0, .index 0, .index 0, .index 0] ∧
      (Path.queryLocated
          ⟨[.descent, .wildcard, .descent, .wildcard]⟩ nestedArrays).findIdx
        (fun found => found.location = [.index 0, .index 0, .index 0]) < 2 := by
  have hwf : nestedArrays.WellFormed := by
    simp [nestedArrays, Json.WellFormed, Json.AllWellFormed]
  have hlocate : Path.locate ⟨[.descent, .wildcard, .descent, .wildcard]⟩ nestedArrays =
      [[.index 0, .index 0], [.index 0, .index 0, .index 0],
        [.index 0, .index 0, .index 0, .index 0], [.index 0, .index 0, .index 0],
        [.index 0, .index 0, .index 0, .index 0],
        [.index 0, .index 0, .index 0, .index 0]] := by cbv
  have houter : ⟨[.index 0, .index 0, .index 0], .array [.null]⟩ ∈
      Path.queryLocated ⟨[.descent, .wildcard, .descent, .wildcard]⟩ nestedArrays :=
    List.mem_of_getElem? (i := 1) (by cbv)
  have hinner :
      (Path.queryLocated ⟨[.descent, .wildcard, .descent, .wildcard]⟩ nestedArrays)[2]? =
        some ⟨[.index 0, .index 0, .index 0, .index 0], .null⟩ := by cbv
  have hbegins : [Element.index 0, .index 0, .index 0] <+:
      [.index 0, .index 0, .index 0, .index 0] := by decide
  have hfirst := findIdx_queryLocated_lt ⟨_⟩ hwf houter hinner hbegins (by decide)
  exact ⟨hwf, hlocate, houter, hinner, hbegins, hfirst⟩

end Path

/-! Document order -/

namespace Json

/-- The place of a child among the children of its container: the index of an element,
the position of a member in its object. -/
def rank : Json → Element → Nat
  | .object members, .key name => (Members.keys members).idxOf name
  | _, .key _ => 0
  | _, .index place => place

/-- The places through which a location leads, from the root on. -/
def ranks : Json → Location → List Nat
  | _, [] => []
  | value, element :: rest =>
      value.rank element :: (value.child? element).elim [] (ranks · rest)

/-- One location is before another in the order of the document: the first places in
which they differ decide, and a location is before all that it begins. -/
def Precedes (document : Json) (location location' : Location) : Prop :=
  document.ranks location < document.ranks location'

theorem ne_of_rank_lt {value : Json} {element element' : Element}
    (hlt : value.rank element < value.rank element') : element ≠ element' := by
  rintro rfl
  exact Nat.lt_irrefl _ hlt

theorem precedes_cons_of_rank_lt {value : Json} {element element' : Element}
    (hlt : value.rank element < value.rank element') (rest rest' : Location) :
    value.Precedes (element :: rest) (element' :: rest') :=
  List.cons_lt_cons_iff.2 (Or.inl hlt)

theorem Precedes.cons {value child : Json} {element : Element}
    (hchild : value.child? element = some child) {rest rest' : Location}
    (hrest : child.Precedes rest rest') :
    value.Precedes (element :: rest) (element :: rest') := by
  rw [Precedes, ranks, ranks, hchild]
  exact List.cons_lt_cons_iff.2 (Or.inr ⟨rfl, hrest⟩)

/-- Children stand in the order of their places. -/
theorem WellFormed.pairwise_rank_children {value : Json} (hwf : value.WellFormed) :
    value.children.Pairwise fun child child' =>
      value.rank child.1 < value.rank child'.1 := by
  rw [List.pairwise_iff_getElem]
  intro place place' hplace hplace' hlt
  cases value with
  | array elements => simpa [children, rank] using hlt
  | object members =>
      have hrank : ∀ (i : Nat) (hi : i < members.length),
          (object members).rank (.key (members[i].1)) = i := by
        intro i hi
        have hkey := hwf.1.idxOf_getElem i (by simpa [Members.keys] using hi)
        simpa [Members.keys, rank] using hkey
      simpa [children, hrank] using hlt
  | null => simp [children] at hplace
  | bool _ => simp [children] at hplace
  | number _ => simp [children] at hplace
  | string _ => simp [children] at hplace

end Json

theorem Item.selected_sublist_children (value : Json) (item : Item) :
    (item.selected value).Sublist value.children := by
  rw [selected]
  cases hfound : value.children.find? fun child =>
      item.names value.children.length child.1 with
  | none => exact List.nil_sublist _
  | some child => exact List.singleton_sublist.2 (List.mem_of_find?_eq_some hfound)

namespace Step

/-- All but unions keep the order of the children among which they select. -/
theorem selected_sublist_children {step : Step} (hunion : ∀ items, step ≠ .union items)
    (root value : Json) : (step.selected root value).Sublist value.children := by
  cases step with
  | key name => exact Item.selected_sublist_children value (.key name)
  | index position => exact Item.selected_sublist_children value (.index position)
  | wildcard => exact List.Sublist.refl _
  | descent => exact List.nil_sublist _
  | slice range => exact List.filter_sublist
  | union items => exact absurd rfl (hunion items)
  | filter predicate => exact List.filter_sublist

variable {root : Json}

theorem pairwise_rank_selected {step : Step} (hunion : ∀ items, step ≠ .union items)
    {value : Json} (hwf : value.WellFormed) :
    (step.selected root value).Pairwise fun child child' =>
      value.rank child.1 < value.rank child'.1 :=
  hwf.pairwise_rank_children.sublist (selected_sublist_children hunion root value)

/-- Without unions and descents, locations are found in document order. -/
theorem pairwise_precedes_placed {steps : List Step}
    (hunion : ∀ items, .union items ∉ steps) (hdescent : .descent ∉ steps) {value : Json}
    (hwf : value.WellFormed) :
    (placed root steps value).Pairwise value.Precedes := by
  induction steps generalizing value with
  | nil =>
      rw [placed_nil]
      exact List.pairwise_singleton _ _
  | cons step rest ih =>
      have hstep : ∀ items, step ≠ .union items := fun items heq =>
        hunion items (heq ▸ List.mem_cons_self)
      have hne : step ≠ .descent := fun heq => hdescent (heq ▸ List.mem_cons_self)
      rw [placed_cons hne, List.pairwise_flatMap]
      constructor
      · intro child hselected
        have hchild := mem_children_of_mem_selected hselected
        have hfound := (Json.child?_eq_some_iff hwf child.1 child.2).2 hchild
        have hrest := ih (fun items hmem => hunion items (List.mem_cons_of_mem step hmem))
          (fun hmem => hdescent (List.mem_cons_of_mem step hmem))
            (hwf.of_mem_children hchild)
        rw [List.pairwise_map]
        exact hrest.imp fun hprecedes => hprecedes.cons hfound
      · apply (pairwise_rank_selected hstep hwf).imp
        intro child child' hlt location hlocation location' hlocation'
        obtain ⟨below, -, rfl⟩ := List.mem_map.1 hlocation
        obtain ⟨below', -, rfl⟩ := List.mem_map.1 hlocation'
        exact Json.precedes_cons_of_rank_lt hlt below below'

/-! Places found once -/

/-- What is found below different children is different. -/
theorem nodup_flatMap_children {children : List (Element × Json)}
    {block : Json → List Location}
    (hunique : children.Pairwise fun child child' => child.1 ≠ child'.1)
    (hblock : ∀ child ∈ children, (block child.2).Nodup) :
    (children.flatMap fun child => (block child.2).map (child.1 :: ·)).Nodup := by
  rw [List.nodup_flatMap]
  constructor
  · intro child hchild
    exact (hblock child hchild).map (List.cons_injective)
  · apply hunique.imp
    intro child child' hne location hlocation hlocation'
    obtain ⟨below, -, rfl⟩ := List.mem_map.1 hlocation
    obtain ⟨below', -, heq⟩ := List.mem_map.1 hlocation'
    exact hne (List.cons.inj heq).1.symm

/-- Without descents each step goes down by one. -/
theorem length_of_mem_placed {steps : List Step} (hdescent : .descent ∉ steps)
    {value : Json}
    {location : Location} (hlocation : location ∈ placed root steps value) :
    location.length = steps.length := by
  induction steps generalizing value location with
  | nil =>
      rw [placed_nil, List.mem_singleton] at hlocation
      rw [hlocation]
      rfl
  | cons step rest ih =>
      have hne : step ≠ .descent := fun heq => hdescent (heq ▸ List.mem_cons_self)
      obtain ⟨child, -, below, hbelow, rfl⟩ := (mem_placed_cons_iff hne).1 hlocation
      rw [List.length_cons, List.length_cons,
        ih (fun hmem => hdescent (List.mem_cons_of_mem step hmem)) hbelow]

/-- A descent in front only makes locations longer. -/
theorem le_length_of_mem_placed_descent {steps : List Step} (hdescent : .descent ∉ steps)
    {value : Json} {location : Location}
    (hlocation : location ∈ placed root (.descent :: steps) value) :
    steps.length ≤ location.length := by
  have hcount : steps.countP (· ≠ .descent) = steps.length := by
    rw [List.countP_eq_length]
    intro step hstep
    exact decide_eq_true fun heq => hdescent (heq ▸ hstep)
  have hle := countP_le_length_of_mem_placed hlocation
  rwa [List.countP_cons_of_neg (by simp), hcount] at hle

/-- With one descent at most, and without unions, no location is found twice: the length
of a location tells where the descent has ended. -/
theorem nodup_placed {steps : List Step} (hunion : ∀ items, .union items ∉ steps)
    (hdescent : steps.count .descent ≤ 1) {value : Json} (hwf : value.WellFormed) :
    (placed root steps value).Nodup := by
  induction steps generalizing value with
  | nil =>
      rw [placed_nil]
      exact List.nodup_singleton _
  | cons step rest ih =>
      have hrest := fun items hmem => hunion items (List.mem_cons_of_mem step hmem)
      by_cases hstep : step = .descent
      · subst hstep
        rw [List.count_cons_self] at hdescent
        have hnone : Step.descent ∉ rest := List.count_eq_zero.1 (by omega)
        induction value using Json.childInduction with
        | step value ihChildren =>
            rw [placed_descent, List.nodup_append']
            refine ⟨ih hrest (by omega) hwf, ?_, ?_⟩
            · apply nodup_flatMap_children
              · exact hwf.pairwise_rank_children.imp Json.ne_of_rank_lt
              · exact fun child hchild =>
                  ihChildren child hchild (hwf.of_mem_children hchild)
            · intro location hhere hbelow
              obtain ⟨child, hchild, hmap⟩ := List.mem_flatMap.1 hbelow
              obtain ⟨deeper, hdeeper, rfl⟩ := List.mem_map.1 hmap
              have hshort := length_of_mem_placed hnone hhere
              have hlong := le_length_of_mem_placed_descent hnone hdeeper
              rw [List.length_cons] at hshort
              omega
      · rw [List.count_cons_of_ne hstep] at hdescent
        rw [placed_cons hstep]
        apply nodup_flatMap_children
        · have hne : ∀ items, step ≠ .union items := fun items heq =>
            hunion items (heq ▸ List.mem_cons_self)
          exact (pairwise_rank_selected hne hwf).imp Json.ne_of_rank_lt
        · intro child hselected
          exact ih hrest hdescent
            (hwf.of_mem_children (mem_children_of_mem_selected hselected))

end Step

namespace Path

/-- Without unions among its steps, a path with no descent finds locations in document
order, each before the next, and a path with one descent finds no location twice.
Predicates may hold any steps. -/
theorem locate_ordered_and_nodup (path : Path) {document : Json}
    (hwf : document.WellFormed) (hunion : ∀ items, .union items ∉ path.steps) :
    (.descent ∉ path.steps → (path.locate document).Pairwise document.Precedes) ∧
      (path.steps.count .descent ≤ 1 → (path.locate document).Nodup) := by
  rw [locate_eq_placed]
  exact ⟨fun hdescent => Step.pairwise_precedes_placed hunion hdescent hwf,
    fun hdescent => Step.nodup_placed hunion hdescent hwf⟩

/-- Two arrays, under keys that do not stand in their order. -/
def twoArrays : Json :=
  .object [("b", .array [.null, .null, .null]), ("a", .array [.null])]

/-- The last two elements of either array, and what holds a first element: the predicate
has a union and a descent of its own. -/
theorem locate_ordered_and_nodup_twoArrays :
    twoArrays.WellFormed ∧
      (∀ items, Step.union items ∉ [.wildcard, .slice ⟨some (-2), none, 1, by decide⟩]) ∧
      Step.descent ∉ [.wildcard, .slice ⟨some (-2), none, 1, by decide⟩] ∧
      Path.locate ⟨[.wildcard, .slice ⟨some (-2), none, 1, by decide⟩]⟩ twoArrays =
        [[.key "b", .index 1], [.key "b", .index 2], [.key "a", .index 0]] ∧
      [[.key "b", .index 1], [.key "b", .index 2], [.key "a", .index 0]].Pairwise
        twoArrays.Precedes ∧
      (∀ items, Step.union items ∉ [.descent, .filter (.bare (.path .current
        [.descent, .union [.index 0, .index 0]]))]) ∧
      [Step.descent, .filter (.bare (.path .current
        [.descent, .union [.index 0, .index 0]]))].count .descent ≤ 1 ∧
      (Path.locate ⟨[.descent, .filter (.bare (.path .current
        [.descent, .union [.index 0, .index 0]]))]⟩ twoArrays).Nodup := by
  have hwf : twoArrays.WellFormed := by
    simp [twoArrays, Json.WellFormed, Json.AllWellFormed, Json.MembersWellFormed,
      Json.Members.keys]
  have hunion : ∀ items, Step.union items ∉
      [.wildcard, .slice ⟨some (-2), none, 1, by decide⟩] := by simp
  have hdescent : Step.descent ∉
      [.wildcard, .slice ⟨some (-2), none, 1, by decide⟩] := by simp
  have hlocate :
      Path.locate ⟨[.wildcard, .slice ⟨some (-2), none, 1, by decide⟩]⟩ twoArrays =
      [[.key "b", .index 1], [.key "b", .index 2], [.key "a", .index 0]] := by cbv
  have hordered := (locate_ordered_and_nodup ⟨_⟩ hwf hunion).1 hdescent
  rw [hlocate] at hordered
  have hunion' : ∀ items, Step.union items ∉ [.descent, .filter (.bare (.path .current
      [.descent, .union [.index 0, .index 0]]))] := by simp
  have hcount : [Step.descent, .filter (.bare (.path .current
      [.descent, .union [.index 0, .index 0]]))].count .descent ≤ 1 := by simp
  have hnodup := (locate_ordered_and_nodup ⟨_⟩ hwf hunion').2 hcount
  exact ⟨hwf, hunion, hdescent, hlocate, hordered, hunion', hcount, hnodup⟩

end Path

end JsonSelect
