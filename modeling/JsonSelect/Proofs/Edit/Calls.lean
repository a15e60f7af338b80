/-
Which answers an edit asks for, and what it makes of them.  Every entry of the
list that leads to a value of the input is asked about once, in the order of the
list, and the answers are taken as if all were given at once.
-/
import Mathlib
import JsonSelect.Proofs.Edit.AtOnce
import JsonSelect.Selection.Query

namespace JsonSelect

variable {σ : Type}

/-- The entries of a list that lead to a value of the document, each with that value. -/
def Json.resolved (document : Json) (locations : List Location) : List Match :=
  locations.filterMap fun location => (document.resolve? location).map (Match.mk location)

/-- Asks about a value, and notes the answer for its location. -/
def Edit.ask (f : Json → StateM σ (Option Json)) (found : Match) : StateM σ Edit := do
  return ⟨found.location, ← f found.value⟩

/-- The same answer for every location of a list. -/
def Answers.all (locations : List Location) (answer : Option Json) : Answers :=
  fun location => if location ∈ locations then some answer else none

theorem Answers.all_eq_none_iff {locations : List Location} {answer : Option Json}
    {location : Location} :
    Answers.all locations answer location = none ↔ location ∉ locations := by
  simp [all]

theorem Answers.all_eq_some_iff {locations : List Location} {answer answer' : Option Json}
    {location : Location} :
    Answers.all locations answer location = some answer' ↔
      location ∈ locations ∧ answer = answer' := by
  rw [all, Option.ite_none_right_eq_some, Option.some.injEq]

namespace Json

theorem isSome_resolve?_of_mem_resolved {document : Json} {locations : List Location}
    {found : Match} (hfound : found ∈ document.resolved locations) :
    (document.resolve? found.location).isSome := by
  simp only [resolved, List.mem_filterMap, Option.map_eq_some_iff] at hfound
  obtain ⟨location, -, value, hvalue, rfl⟩ := hfound
  rw [hvalue]
  rfl

theorem answersAt_eq_mapM (document : Json) (f : Json → StateM σ (Option Json))
    (locations : List Location) :
    document.answersAt f locations = (document.resolved locations).mapM (Edit.ask f) := by
  induction locations with
  | nil => rfl
  | cons location locations ih =>
      rw [answersAt, resolved, List.filterMap_cons]
      cases hvalue : document.resolve? location with
      | none => exact ih
      | some value =>
          simp only [Option.map_some, List.mapM_cons, Edit.ask, bind_assoc, pure_bind]
          rw [ih]
          rfl

/-- What is true of each answer is true of all that a run gives. -/
theorem forall_mem_mapM {α β : Type} {f : α → StateM σ β} {items : List α}
    {Good : β → Prop} (hgood : ∀ item ∈ items, ∀ state, Good ((f item).run state).1)
    (state : σ) :
    ∀ result ∈ ((items.mapM f).run state).1, Good result := by
  induction items generalizing state with
  | nil => nofun
  | cons item items ih =>
      rw [List.forall_mem_cons] at hgood
      rw [List.mapM_cons]
      exact List.forall_mem_cons.2 ⟨hgood.1 state, ih hgood.2 _⟩

/-- The edits of a run are for the matches that were asked about, one for each. -/
theorem map_location_mapM_ask (f : Json → StateM σ (Option Json)) (matched : List Match)
    (state : σ) :
    ((matched.mapM (Edit.ask f)).run state).1.map Edit.location =
      matched.map Match.location := by
  induction matched generalizing state with
  | nil => rfl
  | cons found matched ih =>
      rw [List.mapM_cons]
      exact congrArg (found.location :: ·) (ih _)

theorem tryReplaceAt_eq_mapM {document : Json} (hwf : document.WellFormed)
    (locations : List Location) (f : Json → StateM σ (Option Json)) :
    document.tryReplaceAt locations f = (do
      let edits ← (document.resolved locations).mapM (Edit.ask f)
      return document.rebuild (Edit.firstAnswer edits)) := by
  rw [tryReplaceAt, answersAt_eq_mapM]
  funext state
  have hlocations := map_location_mapM_ask f (document.resolved locations) state
  have hresolves :
      ∀ edit ∈ (((document.resolved locations).mapM (Edit.ask f)).run state).1,
      (document.resolve? edit.location).isSome := by
    intro edit hedit
    have hmem := List.mem_map_of_mem (f := Edit.location) hedit
    rw [hlocations, List.mem_map] at hmem
    obtain ⟨found, hfound, heq⟩ := hmem
    rw [← heq]
    exact isSome_resolve?_of_mem_resolved hfound
  exact congrArg (·, _) (Edit.foldl_apply_schedule hwf _ hresolves)

theorem mem_map_location_resolved {document : Json} {locations : List Location}
    {location : Location} (hresolves : (document.resolve? location).isSome) :
    location ∈ (document.resolved locations).map Match.location ↔
      location ∈ locations := by
  obtain ⟨value, hvalue⟩ := Option.isSome_iff_exists.1 hresolves
  simp only [resolved, List.mem_map, List.mem_filterMap, Option.map_eq_some_iff]
  constructor
  · rintro ⟨found, ⟨other, hother, value', -, rfl⟩, rfl⟩
    exact hother
  · intro hmem
    exact ⟨⟨location, value⟩, ⟨location, hmem, value, hvalue, rfl⟩, rfl⟩

theorem firstAnswer_map_const (matched : List Match) (answer : Option Json) :
    Edit.firstAnswer (matched.map fun found => ⟨found.location, answer⟩) =
      Answers.all (matched.map Match.location) answer := by
  funext location
  induction matched with
  | nil => rfl
  | cons found matched ih =>
      rw [List.map_cons, Edit.firstAnswer_cons, ih]
      by_cases hlocation : found.location = location
      · simp [Answers.all, hlocation]
      · simp [Answers.all, hlocation, Ne.symm hlocation]

theorem mapM_ask_const (matched : List Match) (answer : Option Json) :
    matched.mapM (Edit.ask (σ := Unit) fun _ => pure answer) =
      pure (matched.map fun found => ⟨found.location, answer⟩) := by
  induction matched with
  | nil => rfl
  | cons found matched ih =>
      rw [List.mapM_cons, ih]
      rfl

/-- An edit with the same answer everywhere rebuilds the document with that answer. -/
theorem tryReplaceAt_const {document : Json} (hwf : document.WellFormed)
    (locations : List Location) (answer : Option Json) :
    (document.tryReplaceAt (σ := Unit) locations (fun _ => pure answer) ()).1 =
      document.rebuild (Answers.all locations answer) := by
  rw [tryReplaceAt_eq_mapM hwf, mapM_ask_const, pure_bind]
  apply rebuild_congr hwf
  intro location hresolves _
  rw [firstAnswer_map_const, Answers.all, Answers.all]
  simp only [mem_map_location_resolved hresolves]

/-- An edit asks about each entry of the list that leads to a value of the input, once
for each such entry and in the order of the list, and rebuilds the input with the first
answer for each location.  Setting to null and taking away are the edits with these
answers throughout.  Answers below a listed location do not count, and where the answers
are all alike neither do order and repetition. -/
theorem tryReplaceAt_eq_rebuild (document : Json) (hwf : document.WellFormed)
    (locations : List Location) :
    (∀ {σ : Type} (f : Json → StateM σ (Option Json)),
      document.tryReplaceAt locations f = do
        let edits ← (document.resolved locations).mapM (Edit.ask f)
        return document.rebuild (Edit.firstAnswer edits)) ∧
    (∀ {σ : Type} (f : Json → StateM σ Json),
      document.replaceAt locations f = do
        let edits ← (document.resolved locations).mapM
          (Edit.ask fun value => some <$> f value)
        return document.rebuild (Edit.firstAnswer edits)) ∧
    document.deleteAt locations = document.rebuild (Answers.all locations (some .null)) ∧
    document.removeAt locations = document.rebuild (Answers.all locations none) ∧
    (∀ answers answers' : Answers,
      (∀ location, (∀ ancestor, ancestor <+: location → ancestor ≠ location →
        answers ancestor = none) → answers location = answers' location) →
      document.rebuild answers = document.rebuild answers') ∧
    ∀ locations' : List Location,
      (∀ location, location ∈ locations ↔ location ∈ locations') →
      document.deleteAt locations = document.deleteAt locations' ∧
        document.removeAt locations = document.removeAt locations' := by
  have hdelete := fun locations => tryReplaceAt_const hwf locations (some .null)
  have hremove := fun locations => tryReplaceAt_const hwf locations none
  refine ⟨tryReplaceAt_eq_mapM hwf locations, ?_, hdelete locations, hremove locations,
    ?_, ?_⟩
  · intro σ f
    exact tryReplaceAt_eq_mapM hwf locations fun value => some <$> f value
  · intro answers answers' hsame
    exact rebuild_congr hwf fun location _ => hsame location
  · intro locations' hsame
    have hall :
        ∀ answer, Answers.all locations answer = Answers.all locations' answer := by
      intro answer
      funext location
      simp only [Answers.all, hsame location]
    constructor
    · exact (hdelete locations).trans (hall (some .null) ▸ (hdelete locations').symm)
    · exact (hremove locations).trans (hall none ▸ (hremove locations').symm)

/-- In an array of three the first and the last element are taken away; the answers for
what is in the last, and for the last once more, do not show. -/
theorem removeAt_nested_repeated :
    (object [("a", .array [.null, .bool true, .object [("b", .null)]])]).WellFormed ∧
      removeAt (object [("a", .array [.null, .bool true, .object [("b", .null)]])])
          [[.key "a", .index 2], [.key "a", .index 0], [.key "a", .index 2, .key "b"],
            [.key "a", .index 2]] =
        .object [("a", .array [.bool true])] := by
  have hwf :
      (object [("a",
        .array [.null, .bool true, .object [("b", .null)]])]).WellFormed := by
    simp [WellFormed, AllWellFormed, MembersWellFormed, Members.keys]
  refine ⟨hwf, (tryReplaceAt_eq_rebuild _ hwf _).2.2.2.1.trans ?_⟩
  rfl

end Json
end JsonSelect
