/-
Ancestors come first.  With several descents a value is reached in many ways,
and matches of different depth take turns; but the first match at a location is
always found before every match below it.
-/
import Mathlib
import JsonSelect.Proofs.Selection.Places

namespace JsonSelect

/-- Of two listed locations, one below the other, the outer is listed first. -/
def AncestorsFirst (locations : List Location) : Prop :=
  ∀ ancestor ∈ locations, ∀ location ∈ locations, ancestor <+: location →
    ancestor ≠ location → locations.idxOf ancestor < locations.idxOf location

namespace Location

theorem idxOf_map_cons (element : Element) (locations : List Location)
    (location : Location) :
    (locations.map (element :: ·)).idxOf (element :: location) =
      locations.idxOf location := by
  induction locations with
  | nil => rfl
  | cons head locations ih =>
      rw [List.map_cons, List.idxOf_cons, List.idxOf_cons, ih]
      simp

/-- A location that stays in a list is before the same locations as it was. -/
theorem idxOf_filter_lt {kept : Location → Bool} {location location' : Location}
    (hkept : kept location = true) {locations : List Location}
    (hlt : locations.idxOf location < locations.idxOf location') :
    (locations.filter kept).idxOf location < (locations.filter kept).idxOf location' := by
  induction locations with
  | nil => exact hlt
  | cons head locations ih =>
      by_cases hlater : head = location'
      · rw [hlater, List.idxOf_cons_self] at hlt
        exact absurd hlt (Nat.not_lt_zero _)
      · by_cases hearlier : head = location
        · rw [List.filter_cons_of_pos (hearlier ▸ hkept), hearlier, List.idxOf_cons_self,
            List.idxOf_cons_ne _ (hearlier ▸ hlater)]
          exact Nat.succ_pos _
        · rw [List.idxOf_cons_ne _ hearlier, List.idxOf_cons_ne _ hlater] at hlt
          have hrest := ih (Nat.lt_of_succ_lt_succ hlt)
          rw [List.filter_cons]
          split
          · rw [List.idxOf_cons_ne _ hearlier, List.idxOf_cons_ne _ hlater]
            exact Nat.succ_lt_succ hrest
          · exact hrest

end Location

namespace AncestorsFirst

theorem nil : AncestorsFirst [] := by
  intro ancestor hancestor
  cases hancestor

theorem append {front back : List Location} (hfront : AncestorsFirst front)
    (hback : AncestorsFirst back)
    (hacross : ∀ location ∈ front, ∀ ancestor ∈ back, ancestor <+: location →
      ancestor ≠ location → ancestor ∈ front) :
    AncestorsFirst (front ++ back) := by
  intro ancestor hancestor location hlocation hbegins hne
  rw [List.mem_append] at hancestor hlocation
  by_cases hinner : location ∈ front
  · have houter : ancestor ∈ front := hancestor.elim id fun hancestor =>
      hacross location hinner ancestor hancestor hbegins hne
    rw [List.idxOf_append_of_mem houter, List.idxOf_append_of_mem hinner]
    exact hfront ancestor houter location hinner hbegins hne
  · have hlocation := hlocation.resolve_left hinner
    rw [List.idxOf_append_of_notMem hinner]
    by_cases houter : ancestor ∈ front
    · have hlt := List.idxOf_lt_length_of_mem houter
      rw [List.idxOf_append_of_mem houter]
      omega
    · have hlt :=
        hback ancestor (hancestor.resolve_left houter) location hlocation hbegins hne
      rw [List.idxOf_append_of_notMem houter]
      omega

/-- The first location is below no other that is listed. -/
theorem eq_of_prefix_head {first ancestor : Location} {locations : List Location}
    (hfirst : AncestorsFirst (first :: locations)) (hancestor : ancestor ∈ locations)
    (hbegins : ancestor <+: first) : ancestor = first := by
  by_contra hne
  have hlt :=
    hfirst ancestor (List.mem_cons_of_mem first hancestor) first List.mem_cons_self
    hbegins hne
  rw [List.idxOf_cons_self] at hlt
  exact Nat.not_lt_zero _ hlt

theorem filter {locations : List Location} (hfirst : AncestorsFirst locations)
    (kept : Location → Bool) : AncestorsFirst (locations.filter kept) := by
  intro ancestor hancestor location hlocation hbegins hne
  rw [List.mem_filter] at hancestor hlocation
  exact Location.idxOf_filter_lt hancestor.2
    (hfirst ancestor hancestor.1 location hlocation.1 hbegins hne)

theorem map_cons (element : Element) {locations : List Location}
    (hfirst : AncestorsFirst locations) :
    AncestorsFirst (locations.map (element :: ·)) := by
  intro ancestor hancestor location hlocation hbegins hne
  obtain ⟨outer, houter, rfl⟩ := List.mem_map.1 hancestor
  obtain ⟨inner, hinner, rfl⟩ := List.mem_map.1 hlocation
  rw [Location.idxOf_map_cons, Location.idxOf_map_cons]
  exact hfirst outer houter inner hinner (List.cons_prefix_cons.1 hbegins).2
    fun heq => hne (congrArg _ heq)

/-- Blocks of locations below children, where children under one element are
the same child. -/
theorem flatMap_children {children : List (Element × Json)} {block : Json → List Location}
    (hunique : ∀ child ∈ children, ∀ child' ∈ children, child.1 = child'.1 →
      child = child') (hblock : ∀ child ∈ children, AncestorsFirst (block child.2)) :
    AncestorsFirst (children.flatMap fun child =>
      (block child.2).map (child.1 :: ·)) := by
  induction children with
  | nil => exact nil
  | cons child children ih =>
      rw [List.flatMap_cons]
      apply append
      · exact (hblock child List.mem_cons_self).map_cons child.1
      · apply ih
        · intro other hother other' hother'
          exact hunique other (List.mem_cons_of_mem child hother) other'
            (List.mem_cons_of_mem child hother')
        · exact fun other hother => hblock other (List.mem_cons_of_mem child hother)
      · intro location hlocation ancestor hancestor hbegins _
        obtain ⟨inner, -, rfl⟩ := List.mem_map.1 hlocation
        obtain ⟨child', hchild', hmap⟩ := List.mem_flatMap.1 hancestor
        obtain ⟨outer, houter, rfl⟩ := List.mem_map.1 hmap
        have helement := (List.cons_prefix_cons.1 hbegins).1
        obtain rfl := hunique child' (List.mem_cons_of_mem child hchild') child
          List.mem_cons_self helement
        exact hmap

end AncestorsFirst

/-- The element of a child tells which child it is. -/
theorem Json.WellFormed.eq_of_mem_children {value : Json} (hwf : value.WellFormed)
    {child child' : Element × Json} (hchild : child ∈ value.children)
    (hchild' : child' ∈ value.children) (helement : child.1 = child'.1) :
    child = child' := by
  have hfound := (Json.child?_eq_some_iff hwf child.1 child.2).2 hchild
  have hfound' := (Json.child?_eq_some_iff hwf child'.1 child'.2).2 hchild'
  rw [helement, hfound'] at hfound
  exact Prod.ext helement (Option.some.inj hfound).symm

/-! The locations of matches -/

namespace Step

/-- The locations that some steps find from a value on, in order. -/
def placed (root : Json) (steps : List Step) (value : Json) : List Location :=
  (located root steps value).map Match.location

variable {root : Json}

theorem placed_nil (value : Json) : placed root [] value = [[]] := by
  rw [placed, located_nil]
  rfl

theorem placed_cons {step : Step} (hstep : step ≠ .descent) (rest : List Step)
    (value : Json) :
    placed root (step :: rest) value =
      (step.selected root value).flatMap fun child =>
        (placed root rest child.2).map (child.1 :: ·) := by
  rw [placed, located_cons root hstep, List.map_flatMap]
  simp only [placed, List.map_map]
  rfl

theorem placed_descent (rest : List Step) (value : Json) :
    placed root (.descent :: rest) value =
      placed root rest value ++ value.children.flatMap fun child =>
        (placed root (.descent :: rest) child.2).map (child.1 :: ·) := by
  rw [placed, located_descent, List.map_append, List.map_flatMap]
  simp only [placed, List.map_map]
  rfl

theorem mem_placed_cons_iff {step : Step} (hstep : step ≠ .descent) {rest : List Step}
    {value : Json} {location : Location} :
    location ∈ placed root (step :: rest) value ↔
      ∃ child ∈ step.selected root value, ∃ below ∈ placed root rest child.2,
        location = child.1 :: below := by
  simp only [placed_cons hstep, List.mem_flatMap, List.mem_map, eq_comm]

/-- A descent goes some way down, and the other steps go on from there. -/
theorem mem_placed_descent_iff {rest : List Step} {value : Json} (hwf : value.WellFormed)
    {location : Location} :
    location ∈ placed root (.descent :: rest) value ↔
      ∃ way below node, value.resolve? way = some node ∧ below ∈ placed root rest node ∧
        location = way ++ below := by
  induction value using Json.childInduction generalizing location with
  | step value ih =>
      rw [placed_descent, List.mem_append, List.mem_flatMap]
      constructor
      · rintro (hhere | ⟨child, hchild, hmap⟩)
        · exact ⟨[], location, value, rfl, hhere, rfl⟩
        · obtain ⟨deeper, hdeeper, rfl⟩ := List.mem_map.1 hmap
          obtain ⟨way, below, node, hway, hbelow, rfl⟩ :=
            (ih child hchild (hwf.of_mem_children hchild)).1 hdeeper
          refine ⟨child.1 :: way, below, node, ?_, hbelow, rfl⟩
          rw [Json.resolve?, (Json.child?_eq_some_iff hwf child.1 child.2).2 hchild]
          exact hway
      · rintro ⟨way, below, node, hway, hbelow, rfl⟩
        cases way with
        | nil =>
            obtain rfl := Option.some.inj hway
            exact Or.inl hbelow
        | cons element way =>
            obtain ⟨child, hfound, hway⟩ := Option.bind_eq_some_iff.1 hway
            have hchild := (Json.child?_eq_some_iff hwf element child).1 hfound
            refine Or.inr ⟨(element, child), hchild,
              List.mem_map.2 ⟨way ++ below, ?_, rfl⟩⟩
            exact (ih (element, child) hchild (hwf.of_mem_children hchild)).2
              ⟨way, below, node, hway, hbelow, rfl⟩

/-- Each step but a descent goes down by one, and a descent goes down some way. -/
theorem countP_le_length_of_mem_placed {steps : List Step} {value : Json}
    {location : Location} (hlocation : location ∈ placed root steps value) :
    steps.countP (· ≠ .descent) ≤ location.length := by
  induction steps generalizing value location with
  | nil => exact Nat.zero_le _
  | cons step rest ih =>
      by_cases hstep : step = .descent
      · subst hstep
        rw [List.countP_cons_of_neg (by simp)]
        induction value using Json.childInduction generalizing location with
        | step value ihChildren =>
            rw [placed_descent, List.mem_append, List.mem_flatMap] at hlocation
            rcases hlocation with hhere | ⟨child, hchild, hmap⟩
            · exact ih hhere
            · obtain ⟨deeper, hdeeper, rfl⟩ := List.mem_map.1 hmap
              exact (ihChildren child hchild hdeeper).trans (Nat.le_succ _)
      · obtain ⟨child, -, below, hbelow, rfl⟩ := (mem_placed_cons_iff hstep).1 hlocation
        rw [List.countP_cons_of_pos (by simpa using hstep), List.length_cons]
        exact Nat.succ_le_succ (ih hbelow)

/-- Steps that are not all descents do not select the value from which they start. -/
theorem nil_notMem_placed (root : Json) {steps : List Step}
    (hsteps : ∃ step ∈ steps, step ≠ .descent) (value : Json) :
    [] ∉ placed root steps value := by
  intro hnil
  have hcount : 0 < steps.countP (· ≠ .descent) :=
    List.countP_pos_iff.2 (by simpa using hsteps)
  exact Nat.not_le_of_lt hcount (countP_le_length_of_mem_placed hnil)

/-- What some steps find from a value further down is, if they find something below it
from the value itself, found from there too: up to some descent the steps go the way to
the lower match, and the descent goes on to where the other way has led. -/
theorem mem_placed_of_below {steps : List Step} {value node : Json}
    (hwf : value.WellFormed) {location way below : Location}
    (hlocation : location ∈ placed root steps value)
    (hway : value.resolve? way = some node) (hbelow : below ∈ placed root steps node)
    (hbegins : way ++ below <+: location) (hne : way ++ below ≠ location) :
    way ++ below ∈ placed root steps value := by
  induction steps generalizing value node location way below with
  | nil =>
      rw [placed_nil, List.mem_singleton] at hlocation
      rw [hlocation, List.prefix_nil] at hbegins
      exact absurd (hbegins.trans hlocation.symm) hne
  | cons step rest ih =>
      by_cases hstep : step = .descent
      · subst hstep
        obtain ⟨further, deeper, start, hfurther, hdeeper, rfl⟩ :=
          (mem_placed_descent_iff (hwf.of_resolve? hway)).1 hbelow
        refine (mem_placed_descent_iff hwf).2
          ⟨way ++ further, deeper, start, ?_, hdeeper, ?_⟩
        · rw [Json.resolve?_append, hway]
          exact hfurther
        · rw [List.append_assoc]
      · cases way with
        | nil =>
            obtain rfl := Option.some.inj hway
            exact hbelow
        | cons element way =>
            obtain ⟨child, hselected, inner, hinner, rfl⟩ :=
              (mem_placed_cons_iff hstep).1 hlocation
            obtain ⟨next, hnext, deeper, hdeeper, rfl⟩ :=
              (mem_placed_cons_iff hstep).1 hbelow
            obtain ⟨rfl, hbegins'⟩ := List.cons_prefix_cons.1 hbegins
            have hchild := mem_children_of_mem_selected hselected
            rw [Json.resolve?,
              (Json.child?_eq_some_iff hwf child.1 child.2).2 hchild] at hway
            have hreached : child.2.resolve? (way ++ [next.1]) = some next.2 := by
              have hwfNode := (hwf.of_mem_children hchild).of_resolve? hway
              have hfound := (Json.child?_eq_some_iff hwfNode next.1 next.2).2
                (mem_children_of_mem_selected hnext)
              rw [Json.resolve?_append, show child.2.resolve? way = some node from hway,
                Option.bind_some, Json.resolve?, hfound]
              rfl
            have hway' : (way ++ [next.1]) ++ deeper = way ++ next.1 :: deeper := by simp
            refine (mem_placed_cons_iff hstep).2
              ⟨child, hselected, way ++ next.1 :: deeper, ?_, rfl⟩
            rw [← hway']
            apply ih (hwf.of_mem_children hchild) hinner hreached hdeeper
            · rwa [hway']
            · rw [hway']
              exact fun heq => hne (congrArg (child.1 :: ·) heq)

/-- Whatever the steps, a location is found before the locations below it. -/
theorem ancestorsFirst_placed (steps : List Step) {value : Json}
    (hwf : value.WellFormed) : AncestorsFirst (placed root steps value) := by
  induction steps generalizing value with
  | nil =>
      rw [placed_nil]
      intro ancestor hancestor location hlocation _ hne
      rw [List.mem_singleton] at hancestor hlocation
      exact absurd (hancestor.trans hlocation.symm) hne
  | cons step rest ih =>
      by_cases hstep : step = .descent
      · subst hstep
        induction value using Json.childInduction with
        | step value ihChildren =>
            rw [placed_descent]
            apply (ih hwf).append
            · exact AncestorsFirst.flatMap_children
                (fun _ hchild _ hchild' => hwf.eq_of_mem_children hchild hchild')
                fun child hchild => ihChildren child hchild (hwf.of_mem_children hchild)
            · -- the outer match is found by a descent into a child, the inner one
              -- without it
              intro location hlocation ancestor hancestor hbegins hne
              obtain ⟨child, hchild, hmap⟩ := List.mem_flatMap.1 hancestor
              obtain ⟨deeper, hdeeper, rfl⟩ := List.mem_map.1 hmap
              obtain ⟨way, below, node, hway, hbelow, rfl⟩ :=
                (mem_placed_descent_iff (hwf.of_mem_children hchild)).1 hdeeper
              have hreached : value.resolve? (child.1 :: way) = some node := by
                rw [Json.resolve?, (Json.child?_eq_some_iff hwf child.1 child.2).2 hchild]
                exact hway
              exact mem_placed_of_below hwf hlocation hreached hbelow hbegins hne
      · rw [placed_cons hstep]
        apply AncestorsFirst.flatMap_children
        · intro child hchild child' hchild'
          exact hwf.eq_of_mem_children (mem_children_of_mem_selected hchild)
            (mem_children_of_mem_selected hchild')
        · intro child hchild
          exact ih (hwf.of_mem_children (mem_children_of_mem_selected hchild))

end Step

namespace Path

theorem locate_eq_placed (path : Path) (document : Json) :
    path.locate document = Step.placed document path.steps document := by
  rw [locate, queryLocated_eq_located]
  rfl

theorem ancestorsFirst_locate (path : Path) {document : Json}
    (hwf : document.WellFormed) : AncestorsFirst (path.locate document) := by
  rw [locate_eq_placed]
  exact Step.ancestorsFirst_placed path.steps hwf

end Path

end JsonSelect
