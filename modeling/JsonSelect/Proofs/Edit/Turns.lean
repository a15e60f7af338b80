/-
The turns of the edits.  Each listed location that is there has one turn, with
the first answer for it.  When the turn comes, what stood at the location still
stands there, changed by nothing but the edits below it; so there is always
something to be overwritten or taken away.
-/
import Mathlib
import JsonSelect.Proofs.Edit.Calls
import JsonSelect.Proofs.Edit.Frame
import JsonSelect.Proofs.Edit.Sorted

namespace JsonSelect

namespace Edit

/-! The edits below a location -/

/-- The edits below a location, as they are seen from there. -/
def below (outer : Location) (edits : List Edit) : List Edit :=
  (edits.filter fun edit =>
    outer <+: edit.location ∧ outer ≠ edit.location).map fun edit =>
    ⟨edit.location.drop outer.length, edit.answer⟩

variable {outer : Location} {edits : List Edit}

theorem mem_below_iff {edit : Edit} :
    edit ∈ below outer edits ↔
      edit.location ≠ [] ∧ ⟨outer ++ edit.location, edit.answer⟩ ∈ edits := by
  simp only [below, List.mem_map, List.mem_filter, decide_eq_true_eq]
  constructor
  · rintro ⟨⟨_, answer⟩, ⟨hmem, ⟨rest, rfl⟩, hne⟩, rfl⟩
    simp only [List.drop_left]
    exact ⟨fun hnil => hne (by rw [hnil, List.append_nil]), hmem⟩
  · rintro ⟨hne, hmem⟩
    refine ⟨_, ⟨hmem, List.prefix_append outer _, ?_⟩, ?_⟩
    · simpa using hne
    · simp only [List.drop_left]

theorem Falling.below (hfalling : Falling edits) (outer : Location) :
    Falling (below outer edits) := by
  rw [Falling, Edit.below, List.pairwise_map]
  apply (hfalling.filter _).imp_of_mem
  rintro ⟨_, answer⟩ ⟨_, answer'⟩ hedit hother hlt
  simp only [List.mem_filter, decide_eq_true_eq] at hedit hother
  obtain ⟨-, ⟨rest, rfl⟩, -⟩ := hedit
  obtain ⟨-, ⟨rest', rfl⟩, -⟩ := hother
  simpa only [List.drop_left, Location.compare_append_left] using hlt

theorem firstAnswer_below (hfalling : Falling edits) {rest : Location} (hne : rest ≠ []) :
    firstAnswer (below outer edits) rest = firstAnswer edits (outer ++ rest) := by
  apply Option.ext
  intro answer
  have hbelow : (⟨rest, answer⟩ : Edit) ∈ below outer edits ↔
      firstAnswer (below outer edits) rest = some answer := (hfalling.below outer).mem_iff
  have hhere : (⟨outer ++ rest, answer⟩ : Edit) ∈ edits ↔
      firstAnswer edits (outer ++ rest) = some answer := hfalling.mem_iff
  rw [← hbelow, ← hhere, mem_below_iff]
  exact and_iff_right hne

theorem firstAnswer_below_nil (outer : Location) (edits : List Edit) :
    firstAnswer (below outer edits) [] = none := by
  rw [firstAnswer_eq_none_iff]
  exact fun edit hedit => (mem_below_iff.1 hedit).1

end Edit

/-! What stands at a location when its turn comes -/

/-- Where answers are written for later locations only, a location leads to what has
become of the value that it led to. -/
theorem Json.resolve?_rebuild {value node : Json} (hwf : value.WellFormed)
    {location : Location} (hnode : value.resolve? location = some node)
    {answers : Answers} (hafter : answers.After location) :
    (value.rebuild answers).resolve? location =
      some (node.rebuild fun rest => answers (location ++ rest)) := by
  induction location generalizing value answers with
  | nil =>
      obtain rfl := Option.some.inj hnode
      rfl
  | cons element location ih =>
      obtain ⟨child, hchild, hnode⟩ := Option.bind_eq_some_iff.1 hnode
      have hnew := rebuilt?_of_unlisted hafter.below.root_eq_none child
      obtain ⟨hfound, -⟩ := rebuild_put_below hwf hchild hafter hnew none
      rw [resolve?, hfound]
      exact ih (hwf.of_child? hchild) hnode hafter.below

namespace Edit

section Turn

variable {document node : Json} {done pending : List Edit} {edit : Edit}

theorem after_of_falling (hfalling : Falling (done ++ edit :: pending)) :
    Answers.After (firstAnswer done) edit.location := by
  intro location hlisted
  rw [ne_eq, firstAnswer_eq_none_iff] at hlisted
  push Not at hlisted
  obtain ⟨earlier, hearlier, rfl⟩ := hlisted
  exact (List.pairwise_append.1 hfalling).2.2 earlier hearlier edit List.mem_cons_self

/-- The edits below a location have had their turns before it. -/
theorem below_eq_below_done (hfalling : Falling (done ++ edit :: pending)) :
    below edit.location (done ++ edit :: pending) = below edit.location done := by
  have hpending := (List.pairwise_cons.1 (List.pairwise_append.1 hfalling).2.1).1
  have hnone : below edit.location (edit :: pending) = [] := by
    rw [below, List.map_eq_nil_iff, List.filter_eq_nil_iff]
    intro other hother hbelow
    simp only [decide_eq_true_eq] at hbelow
    rcases List.mem_cons.1 hother with rfl | hother
    · exact hbelow.2 rfl
    · have hgt := Location.lt_of_prefix hbelow.1 hbelow.2
      exact Std.OrientedCmp.not_lt_of_lt (hpending other hother) hgt
  unfold below at hnone ⊢
  rw [List.filter_append, List.map_append, hnone, List.append_nil]

/-- When its turn comes, an edit finds what was at its location with the edits
below it done. -/
theorem resolve?_at_turn (hwf : document.WellFormed)
    (hfalling : Falling (done ++ edit :: pending))
    (hresolves : ∀ other ∈ done, (document.resolve? other.location).isSome)
    (hnode : document.resolve? edit.location = some node) :
    (done.foldl apply document).resolve? edit.location =
      some ((below edit.location (done ++ edit :: pending)).foldl apply node) := by
  have hdone : Falling done := (List.pairwise_append.1 hfalling).1
  have hafter := after_of_falling hfalling
  have hinside : ∀ other ∈ below edit.location done,
      (node.resolve? other.location).isSome := by
    intro other hother
    have hsome := hresolves _ (mem_below_iff.1 hother).2
    rwa [Json.resolve?_append, hnode] at hsome
  have hanswers : (fun rest => firstAnswer done (edit.location ++ rest)) =
      firstAnswer (below edit.location done) := by
    funext rest
    by_cases hrest : rest = []
    · rw [hrest, List.append_nil, firstAnswer_below_nil]
      by_contra hlisted
      have hlt := hafter edit.location hlisted
      exact Std.OrientedCmp.not_lt_of_lt hlt hlt
    · exact (firstAnswer_below hdone hrest).symm
  rw [below_eq_below_done hfalling,
    foldl_apply_of_falling (hwf.of_resolve? hnode) (hdone.below _) hinside,
    foldl_apply_of_falling hwf hdone hresolves, Json.resolve?_rebuild hwf hnode hafter,
      hanswers]

end Turn

/-! What an edit does -/

/-- An edit that finds what it is for makes a document another: a value is overwritten,
the root is cleared, or a child that is there is taken out of its container. -/
inductive TakesEffect (document : Json) : Edit → Json → Prop where
  | write {location : Location} {value result : Json}
      (hset : document.set? location value = some result) :
      TakesEffect document ⟨location, some value⟩ result
  | clear : TakesEffect document ⟨[], none⟩ .null
  | eraseMember {parent : Location} {members : Json.Members} {name : String}
      {result : Json}
      (hparent : document.resolve? parent = some (.object members))
      (hname : name ∈ Json.Members.keys members)
      (hset : document.set? parent (.object (Json.Members.erase members name)) =
        some result) : TakesEffect document ⟨parent ++ [.key name], none⟩ result
  | eraseElement {parent : Location} {elements : List Json} {place : Nat} {result : Json}
      (hparent : document.resolve? parent = some (.array elements))
      (hplace : place < elements.length)
      (hset : document.set? parent (.array (elements.eraseIdx place)) = some result) :
      TakesEffect document ⟨parent ++ [.index place], none⟩ result

end Edit

theorem Json.update?_eq_set? {document found : Json} {location : Location}
    (hfound : document.resolve? location = some found) (f : Json → Json) :
    document.update? f location = document.set? location (f found) := by
  rw [← map_value_site?] at hfound
  obtain ⟨site, hsite, rfl⟩ := Option.map_eq_some_iff.1 hfound
  rw [set?, update?_eq_map_site?, update?_eq_map_site?, hsite]
  rfl

namespace Edit

/-- Taking away a child writes its container without it. -/
theorem set?_eraseChild {document container : Json} {parent : Location}
    (hparent : document.resolve? parent = some container) (last : Element) :
    document.set? parent (container.eraseChild last) =
      some (apply document ⟨parent ++ [last], none⟩) := by
  obtain ⟨written, hset⟩ := Json.exists_set? hparent (container.eraseChild last)
  have hupdate := (Json.update?_eq_set? hparent (·.eraseChild last)).trans hset
  simp only [apply, Location.splitLast?_append, hupdate, Option.getD_some, hset]

/-- An edit whose location leads to something takes effect. -/
theorem takesEffect_apply {document found : Json} {edit : Edit}
    (hfound : document.resolve? edit.location = some found) :
    TakesEffect document edit (apply document edit) := by
  obtain ⟨location, _ | value⟩ := edit
  · rcases List.eq_nil_or_concat location with rfl | ⟨parent, last, rfl⟩
    · exact .clear
    · rw [List.concat_eq_append] at hfound ⊢
      rw [Json.resolve?_append] at hfound
      obtain ⟨container, hparent, hlast⟩ := Option.bind_eq_some_iff.1 hfound
      obtain ⟨child, hchild, -⟩ := Option.bind_eq_some_iff.1 hlast
      obtain ⟨elements, place, rfl, rfl, hget⟩ | ⟨members, name, rfl, rfl, hget⟩ :=
        Json.container_of_child? hchild
      · exact .eraseElement hparent (List.getElem?_eq_some_iff.1 hget).1
          (set?_eraseChild hparent (.index place))
      · obtain ⟨front, back, rfl, -⟩ := Json.Members.exists_append_of_get?_eq_some hget
        have hname : name ∈ Json.Members.keys (front ++ (name, child) :: back) := by
          simp [Json.Members.keys]
        exact .eraseMember hparent hname (set?_eraseChild hparent (.key name))
  · obtain ⟨written, hset⟩ := Json.exists_set? hfound value
    have happly : apply document ⟨location, some value⟩ = written := by
      simp only [apply, hset, Option.getD_some]
    exact happly ▸ .write hset

end Edit

/-! Which edits are scheduled -/

theorem Edit.mem_map_location_iff {edits : List Edit} {location : Location} :
    location ∈ edits.map Edit.location ↔ firstAnswer edits location ≠ none := by
  rw [ne_eq, firstAnswer_eq_none_iff, List.mem_map]
  push Not
  rfl

theorem Edit.mem_map_location_schedule_iff {edits : List Edit} {location : Location} :
    location ∈ (schedule edits).map Edit.location ↔
      location ∈ edits.map Edit.location := by
  rw [mem_map_location_iff, mem_map_location_iff, firstAnswer_schedule]

namespace Json

variable {σ : Type} {document : Json} {f : Json → StateM σ (Option Json)} {state : σ}

theorem mem_map_location_answersAt_iff {locations : List Location} {location : Location} :
    location ∈ ((document.answersAt f locations).run state).1.map Edit.location ↔
      location ∈ locations ∧ (document.resolve? location).isSome := by
  rw [answersAt_eq_mapM, map_location_mapM_ask]
  constructor
  · intro hmem
    obtain ⟨found, hfound, rfl⟩ := List.mem_map.1 hmem
    have hresolves := isSome_resolve?_of_mem_resolved hfound
    exact ⟨(mem_map_location_resolved hresolves).1 hmem, hresolves⟩
  · rintro ⟨hmem, hresolves⟩
    exact (mem_map_location_resolved hresolves).2 hmem

theorem answersAt_cons_of_missing {location : Location}
    (hmissing : document.resolve? location = none) (rest : List Location) :
    document.answersAt f (location :: rest) = document.answersAt f rest := by
  rw [answersAt, hmissing]

theorem run_answersAt_cons {location : Location} {value : Json}
    (hvalue : document.resolve? location = some value) (rest : List Location) :
    (document.answersAt f (location :: rest)).run state =
      let call := (f value).run state
      let later := (document.answersAt f rest).run call.2
      (⟨location, call.1⟩ :: later.1, later.2) := by
  rw [answersAt, hvalue]
  rfl

/-- The first answer for a location is that of the first call for it, which is made in
the state that the calls for the entries before it have left. -/
theorem exists_call_of_firstAnswer {locations : List Location} {location : Location}
    {answer : Option Json}
    (hanswer : Edit.firstAnswer ((document.answersAt f locations).run state).1 location =
      some answer) :
    ∃ front back value, locations = front ++ location :: back ∧ location ∉ front ∧
      document.resolve? location = some value ∧
      answer = ((f value).run ((document.answersAt f front).run state).2).1 := by
  induction locations generalizing state with
  | nil => cases hanswer
  | cons head rest ih =>
      cases hvalue : document.resolve? head with
      | none =>
          rw [answersAt_cons_of_missing hvalue] at hanswer
          obtain ⟨front, back, value, rfl, hfront, hfound, hcall⟩ := ih hanswer
          have hne : location ≠ head := by
            rintro rfl
            cases hvalue.symm.trans hfound
          refine ⟨head :: front, back, value, rfl, ?_, hfound, ?_⟩
          · simp [hne, hfront]
          · rw [answersAt_cons_of_missing hvalue]
            exact hcall
      | some value =>
          rw [run_answersAt_cons hvalue, Edit.firstAnswer_cons] at hanswer
          by_cases hlocation : head = location
          · rw [if_pos hlocation] at hanswer
            subst hlocation
            exact ⟨[], rest, value, rfl, List.not_mem_nil, hvalue,
              (Option.some.inj hanswer).symm⟩
          · rw [if_neg hlocation] at hanswer
            obtain ⟨front, back, found, rfl, hfront, hfound, hcall⟩ := ih hanswer
            refine ⟨head :: front, back, found, rfl, ?_, hfound, ?_⟩
            · simp [Ne.symm hlocation, hfront]
            · rw [run_answersAt_cons hvalue]
              exact hcall

/-- The edits of a run are sorted, later locations first, and done one after another.
Each listed location that is there has one, with the answer of the first call for it.
When its turn comes, the location leads to what was there in the input, with the edits
below it done and no others, and the edit takes effect. -/
theorem scheduled_edits_take_effect (document : Json) (hwf : document.WellFormed)
    (locations : List Location) (f : Json → StateM σ (Option Json)) (state : σ) :
    let edits := ((document.answersAt f locations).run state).1
    let scheduled := Edit.schedule edits
    ((document.tryReplaceAt locations f).run state).1 =
      scheduled.foldl Edit.apply document ∧
    scheduled = Edit.leaders (edits.mergeSort Edit.laterFirst) ∧ Edit.Falling scheduled ∧
    (∀ location, (scheduled.map Edit.location).count location =
      if location ∈ locations ∧ (document.resolve? location).isSome then 1 else 0) ∧
    (∀ edit ∈ scheduled, ∃ front back value,
      locations = front ++ edit.location :: back ∧ edit.location ∉ front ∧
      document.resolve? edit.location = some value ∧
      edit.answer = ((f value).run ((document.answersAt f front).run state).2).1) ∧
    ∀ done edit pending, scheduled = done ++ edit :: pending →
      ∃ node, document.resolve? edit.location = some node ∧
        (done.foldl Edit.apply document).resolve? edit.location =
          some ((Edit.below edit.location scheduled).foldl Edit.apply node) ∧
        Edit.TakesEffect (done.foldl Edit.apply document) edit
          (Edit.apply (done.foldl Edit.apply document) edit) := by
  intro edits scheduled
  have hfalling : Edit.Falling scheduled := Edit.falling_schedule edits
  have hlisted : ∀ location, location ∈ scheduled.map Edit.location ↔
      location ∈ locations ∧ (document.resolve? location).isSome := by
    intro location
    rw [Edit.mem_map_location_schedule_iff]
    exact mem_map_location_answersAt_iff
  have hresolves : ∀ edit ∈ scheduled, (document.resolve? edit.location).isSome :=
    fun edit hedit => ((hlisted edit.location).1 (List.mem_map_of_mem hedit)).2
  refine ⟨rfl, Edit.schedule_eq_leaders_mergeSort edits, hfalling, ?_, ?_, ?_⟩
  · intro location
    rw [hfalling.nodup_locations.count]
    simp only [hlisted]
  · intro edit hedit
    have hanswer := hfalling.mem_iff.1 hedit
    rw [Edit.firstAnswer_schedule] at hanswer
    exact exists_call_of_firstAnswer hanswer
  · intro done edit pending hsplit
    rw [hsplit] at hfalling hresolves ⊢
    obtain ⟨node, hnode⟩ := Option.isSome_iff_exists.1 (hresolves edit (by simp))
    have hturn := Edit.resolve?_at_turn hwf hfalling
      (fun other hother => hresolves other (List.mem_append_left _ hother)) hnode
    exact ⟨node, hnode, hturn, Edit.takesEffect_apply hturn⟩

/-- Every other value is taken away, the first among them; the others become null. -/
def everyOther (_ : Json) : StateM Nat (Option Json) :=
  modifyGet fun calls => (if calls % 2 = 0 then none else some .null, calls + 1)

/-- The last element of an array goes before the array does, and the array before its
neighbour is written.  The second answer for the array, which would be null, is not
among the edits. -/
theorem scheduled_edits_take_effect_nested :
    let document := array [.bool false, .array [.null, .bool true], .null]
    let inner : Edit := ⟨[.index 1, .index 1], none⟩
    let outer : Edit := ⟨[.index 1], none⟩
    document.WellFormed ∧
      Edit.schedule
        ((document.answersAt everyOther [[.index 1], [.index 0], [.index 1, .index 1],
        [.index 3], [.index 1]]).run 0).1 = [inner, outer, ⟨[.index 0], some .null⟩] ∧
      (Edit.apply document inner).resolve? outer.location = some (.array [.null]) ∧
      Edit.TakesEffect (Edit.apply document inner) outer
        (.array [.bool false, .null]) := by
  intro document inner outer
  have hwf : document.WellFormed := by
    simp [document, WellFormed, AllWellFormed]
  obtain ⟨-, -, -, -, -, hturns⟩ := scheduled_edits_take_effect document hwf
    [[.index 1], [.index 0], [.index 1, .index 1], [.index 3], [.index 1]] everyOther 0
  obtain ⟨node, hnode, hturn, heffect⟩ :=
    hturns [inner] outer [⟨[.index 0], some .null⟩] rfl
  obtain rfl : .array [.null, .bool true] = node := Option.some.inj hnode
  exact ⟨hwf, rfl, hturn, heffect⟩

end Json
end JsonSelect
