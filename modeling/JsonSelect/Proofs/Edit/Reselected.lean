/-
Selecting again what has been replaced.  A path without filters finds the
outermost of its matches again after scalars have been written there, each as
the answer to its first match; so setting to null twice is setting to null once.
-/
import Mathlib
import JsonSelect.Proofs.Edit.Flat
import JsonSelect.Proofs.Edit.Frame
import JsonSelect.Proofs.Edit.WriteBack

namespace JsonSelect

/-! Writing what is there -/

namespace Json

/-- Nothing changes where what is there is written again. -/
theorem overwrite_eq_self {document value : Json} {location : Location}
    (hvalue : document.resolve? location = some value) :
    document.overwrite location value = document := by
  rw [overwrite, set?_resolve? hvalue, Option.getD_some]

/-- Where only null stands already, setting to null makes no difference. -/
theorem deleteAt_eq_self {document : Json} {locations : List Location}
    (hnull : ∀ location ∈ locations, document.resolve? location = some .null) :
    document.deleteAt locations = document := by
  have hedits : ∀ edit ∈ (document.resolved locations).map fun found =>
      (⟨found.location, some .null⟩ : Edit), Edit.apply document edit = document := by
    rw [List.forall_mem_map]
    intro found hfound
    simp only [resolved, List.mem_filterMap, Option.map_eq_some_iff] at hfound
    obtain ⟨location, hlocation, value, -, rfl⟩ := hfound
    exact overwrite_eq_self (hnull location hlocation)
  rw [deleteAt, tryReplaceAt, answersAt_eq_mapM, mapM_ask_const, pure_bind]
  apply List.foldlRecOn (motive := fun edited => edited = document)
  · rfl
  · rintro _ rfl edit hedit
    exact hedits edit (Edit.mem_of_mem_schedule hedit)

end Json

/-! Editing what a path selects -/

/-- The location is listed, and none above it is. -/
def Location.Outermost (locations : List Location) (location : Location) : Prop :=
  location ∈ locations ∧ ∀ ancestor ∈ locations, ancestor <+: location →
    ancestor = location

instance (locations : List Location) (location : Location) :
    Decidable (location.Outermost locations) :=
  inferInstanceAs (Decidable (_ ∧ _))

namespace Write

/-- The value that is to be written first at a location. -/
def firstValue? (writes : List Write) (location : Location) : Option Json :=
  (writes.find? fun write => write.location = location).map Write.value

theorem firstAnswer_map_edit (writes : List Write) (location : Location) :
    Edit.firstAnswer (writes.map edit) location =
      (firstValue? writes location).map some := by
  rw [Edit.firstAnswer, firstValue?, List.find?_map, Option.map_map, Option.map_map]
  rfl

theorem firstAnswer_map_edit_eq_none_iff {writes : List Write} {location : Location} :
    Edit.firstAnswer (writes.map edit) location = none ↔
      location ∉ writes.map Write.location := by
  rw [Edit.firstAnswer_eq_none_iff]
  simp [edit]

theorem flat_firstAnswer {writes : List Write}
    (hflat : ∀ write ∈ writes, write.value.children = []) :
    (Edit.firstAnswer (writes.map edit)).Flat := by
  intro location answer hanswer
  rw [firstAnswer_map_edit, firstValue?, Option.map_map,
    Option.map_eq_some_iff] at hanswer
  obtain ⟨write, hwrite, rfl⟩ := hanswer
  exact ⟨write.value, rfl, hflat write (List.mem_of_find?_eq_some hwrite)⟩

variable {σ : Type}

/-- There is nothing in scalars. -/
theorem flat_firstAnswer_ask {f : Json → StateM σ Json}
    (hscalar : ∀ value state, ((f value).run state).1.scalar?.isSome)
    (matched : List Match) (state : σ) :
    (Edit.firstAnswer (((matched.mapM (Write.ask f)).run state).1.map edit)).Flat := by
  apply flat_firstAnswer
  apply Json.forall_mem_mapM
  intro found _ state
  obtain ⟨scalar, hvalue⟩ := Option.isSome_iff_exists.1 (hscalar found.value state)
  exact Json.children_eq_nil_of_scalar? hvalue

end Write

namespace Path

variable {path : Path} {document : Json} {answers : Answers}

section Rebuilt

variable (hplain : ∀ step ∈ path.steps, step.isFilter = false) (hflat : answers.Flat)

include hplain hflat

theorem queryLocated_rebuild (document : Json) :
    path.queryLocated (document.rebuild answers) =
      answers.remaining (path.queryLocated document) := by
  rw [queryLocated_eq_located, queryLocated_eq_located]
  exact located_rebuild document _ hplain hflat document

variable (hlisted : ∀ location, answers location = none ↔ location ∉ path.locate document)

include hlisted

/-- Where the answers are for the matches of a path, the outermost of these are
matched again. -/
theorem mem_locate_rebuild_iff (location : Location) :
    location ∈ path.locate (document.rebuild answers) ↔
      location.Outermost (path.locate document) := by
  have hremaining : path.locate (document.rebuild answers) =
      (path.locate document).filter answers.spares := by
    rw [locate, locate, queryLocated_rebuild hplain hflat, Answers.remaining,
      List.map_map, List.filter_map]
    rfl
  rw [hremaining, List.mem_filter, Answers.spares_iff, Location.Outermost]
  refine and_congr_right fun _ => forall_congr' fun ancestor => ?_
  rw [hlisted ancestor]
  tauto

/-- What is matched again is what was answered. -/
theorem answer_of_mem_queryLocated_rebuild {found : Match}
    (hfound : found ∈ path.queryLocated (document.rebuild answers)) :
    answers found.location = some (some found.value) := by
  rw [queryLocated_rebuild hplain hflat] at hfound
  obtain ⟨original, horiginal, rfl⟩ := List.mem_map.1 hfound
  have hmem : original.location ∈ path.locate document :=
    List.mem_map_of_mem (List.mem_filter.1 horiginal).1
  cases hanswer : answers original.location with
  | none => exact absurd hmem ((hlisted _).1 hanswer)
  | some answer =>
      obtain ⟨new, rfl, -⟩ := hflat _ _ hanswer
      have hbelow : answers.belowAll original.location [] = some (some new) := by
        rw [Answers.belowAll, List.append_nil, hanswer]
      rw [Match.rebuild, Json.rebuild, Json.rebuilt?_of_listed hbelow]
      exact hanswer

end Rebuilt

/-- Replacing what a path selects writes the first answer for each location. -/
theorem replaceAt_locate_eq_rebuild {σ : Type} (path : Path) (hwf : document.WellFormed)
    (f : Json → StateM σ Json) (state : σ) :
    ((document.replaceAt (path.locate document) f).run state).1 =
      document.rebuild (Edit.firstAnswer
        ((((path.queryLocated document).mapM (Write.ask f)).run state).1.map
          Write.edit)) := by
  rw [Json.replaceAt, Json.tryReplaceAt_eq_mapM hwf, locate,
    Json.resolved_map_location fun _ => resolve?_of_mem_queryLocated hwf, mapM_ask_some,
    bind_map_left]
  rfl

/-- Setting to null what a path selects leaves the outermost of it to be selected, and
nothing to be set to null. -/
theorem deleteAt_locate_deleteAt (hwf : document.WellFormed)
    (hplain : ∀ step ∈ path.steps, step.isFilter = false) :
    let deleted := document.deleteAt (path.locate document)
    (∀ location, location ∈ path.locate deleted ↔
      location.Outermost (path.locate document)) ∧
      (∀ found ∈ path.queryLocated deleted, found.value = .null) ∧
      deleted.deleteAt (path.locate deleted) = deleted := by
  intro deleted
  have hdeleted : deleted =
      document.rebuild (Answers.all (path.locate document) (some .null)) :=
    Json.tryReplaceAt_const hwf (path.locate document) (some .null)
  have hflat : (Answers.all (path.locate document) (some .null)).Flat := by
    intro location answer hanswer
    exact ⟨.null, (Answers.all_eq_some_iff.1 hanswer).2.symm, rfl⟩
  have houtermost : ∀ location, location ∈ path.locate deleted ↔
      location.Outermost (path.locate document) := by
    rw [hdeleted]
    exact mem_locate_rebuild_iff hplain hflat fun _ => Answers.all_eq_none_iff
  have hnull : ∀ found ∈ path.queryLocated deleted, found.value = .null := by
    intro found hfound
    rw [hdeleted] at hfound
    have hanswer := answer_of_mem_queryLocated_rebuild hplain hflat
      (fun _ => Answers.all_eq_none_iff) hfound
    exact (Option.some.inj (Answers.all_eq_some_iff.1 hanswer).2).symm
  have hwf' : deleted.WellFormed := hdeleted ▸ hwf.rebuild hflat.wellFormed
  refine ⟨houtermost, hnull, Json.deleteAt_eq_self fun location hlocation => ?_⟩
  obtain ⟨found, hfound, rfl⟩ := List.mem_map.1 hlocation
  rw [resolve?_of_mem_queryLocated hwf' hfound, hnull found hfound]

/-- After scalars are written where a path without filters selects, the path selects the
outermost of the same locations, and at each of them the answer to its first match.  So
it does after what it selects is set to null: all that is selected then is null, and to
set it to null again changes nothing. -/
theorem replaceWith_selects_outermost [JsonReader] (document : Json)
    (hwf : document.WellFormed)
    {text : String} {path : Path} (hread : readPath text = .ok path)
    (hplain : ∀ step ∈ path.steps, step.isFilter = false) :
    (∀ {σ : Type} (f : Json → StateM σ Json),
      (∀ value state, ((f value).run state).1.scalar?.isSome) →
      ∃ edited : StateM σ Json, JsonSelect.replaceWith document text f = .ok edited ∧
        ∀ state : σ,
          let writes := (((path.queryLocated document).mapM (Write.ask f)).run state).1
          let document' := (edited.run state).1
          (∀ location, location ∈ path.locate document' ↔
            location.Outermost (path.locate document)) ∧
          ∀ found ∈ path.queryLocated document',
            Write.firstValue? writes found.location = some found.value) ∧
    ∃ deleted, JsonSelect.delete document text = .ok deleted ∧
      (∀ location, location ∈ path.locate deleted ↔
        location.Outermost (path.locate document)) ∧
      (∀ value ∈ path.query deleted, value = .null) ∧
      JsonSelect.delete deleted text = .ok deleted := by
  constructor
  · intro σ f hscalar
    refine ⟨document.replaceAt (path.locate document) f, ?_, fun state => ?_⟩
    · rw [JsonSelect.replaceWith, hread]
      rfl
    · intro writes document'
      have hflat := Write.flat_firstAnswer_ask hscalar (path.queryLocated document) state
      have hlisted :
          ∀ location, Edit.firstAnswer (writes.map Write.edit) location = none ↔
            location ∉ path.locate document := by
        intro location
        rw [Write.firstAnswer_map_edit_eq_none_iff, map_location_mapM_write, locate]
      have hedited :
          document' = document.rebuild (Edit.firstAnswer (writes.map Write.edit)) :=
        replaceAt_locate_eq_rebuild path hwf f state
      rw [hedited]
      refine ⟨mem_locate_rebuild_iff hplain hflat hlisted, fun found hfound => ?_⟩
      have hanswer := answer_of_mem_queryLocated_rebuild hplain hflat hlisted hfound
      rw [Write.firstAnswer_map_edit, Option.map_eq_some_iff] at hanswer
      obtain ⟨value, hvalue, heq⟩ := hanswer
      rw [hvalue, heq]
  · obtain ⟨houtermost, hnull, hagain⟩ := deleteAt_locate_deleteAt hwf hplain
    refine ⟨document.deleteAt (path.locate document), ?_, houtermost, ?_, ?_⟩
    · rw [JsonSelect.delete, hread]
      rfl
    · rw [query_eq_map_value, List.forall_mem_map]
      exact hnull
    · rw [JsonSelect.delete, hread]
      exact congrArg Except.ok hagain

/-- Answers false and true by turns. -/
def alternate (_ : Json) : StateM Bool Json := do
  let answer ← get
  set !answer
  return .bool answer

/-- The outer member is matched twice before the inner one.  It alone is matched again,
as what it was answered first. -/
theorem replaceWith_selects_outermost_repeated :
    (Json.object [("a", .object [("b", .null)])]).WellFormed ∧
      readPath "$..['a','b','a']" =
        .ok ⟨[.descent, .union [.key "a", .key "b", .key "a"]]⟩ ∧
      (∀ step ∈ [Step.descent, .union [.key "a", .key "b", .key "a"]],
        step.isFilter = false) ∧
      (∀ value state, ((alternate value).run state).1.scalar?.isSome) ∧
      ∃ edited : StateM Bool Json,
        JsonSelect.replaceWith (.object [("a", .object [("b", .null)])])
          "$..['a','b','a']" alternate = .ok edited ∧
        [.key "a"] ∈ Path.locate ⟨[.descent, .union [.key "a", .key "b", .key "a"]]⟩
          (edited.run false).1 ∧
        [.key "a", .key "b"] ∉
          Path.locate ⟨[.descent, .union [.key "a", .key "b", .key "a"]]⟩
            (edited.run false).1 ∧
        ∀ found ∈ Path.queryLocated ⟨[.descent, .union [.key "a", .key "b", .key "a"]]⟩
            (edited.run false).1,
          found.location = [.key "a"] → found.value = .bool false := by
  have hwf : (Json.object [("a", .object [("b", .null)])]).WellFormed := by
    simp [Json.WellFormed, Json.MembersWellFormed, Json.Members.keys]
  have hread : readPath "$..['a','b','a']" =
      .ok ⟨[.descent, .union [.key "a", .key "b", .key "a"]]⟩ := by cbv
  have hplain : ∀ step ∈ [Step.descent, .union [.key "a", .key "b", .key "a"]],
      step.isFilter = false := by decide
  have hscalar : ∀ value state, ((alternate value).run state).1.scalar?.isSome :=
    fun _ _ => rfl
  obtain ⟨edited, hedited, hruns⟩ :=
    (replaceWith_selects_outermost _ hwf hread hplain).1 alternate hscalar
  obtain ⟨hlocations, hanswers⟩ := hruns false
  have hlocate : Path.locate ⟨[.descent, .union [.key "a", .key "b", .key "a"]]⟩
      (.object [("a", .object [("b", .null)])]) =
        [[.key "a"], [.key "a"], [.key "a", .key "b"]] := by cbv
  rw [hlocate] at hlocations
  refine ⟨hwf, hread, hplain, hscalar, edited, hedited, ?_, ?_, ?_⟩
  · exact (hlocations _).2 (by decide)
  · exact fun hmem => absurd ((hlocations _).1 hmem) (by decide)
  · intro found hfound hlocation
    have hvalue := hanswers found hfound
    rw [hlocation] at hvalue
    exact Option.some.inj (hvalue.symm.trans (by cbv))

end Path

end JsonSelect
