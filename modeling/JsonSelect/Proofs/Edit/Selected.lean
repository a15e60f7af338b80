/-
Edits of what a path selects.  Every match leads to its value in the document,
so an edit passes none of them over: it asks about the values that a query
answers, about each as often and in the order in which they are answered.
-/
import Mathlib
import JsonSelect.Access
import JsonSelect.Proofs.Edit.Calls
import JsonSelect.Proofs.Selection.Places
import JsonSelect.Selector

namespace JsonSelect

variable {σ : Type}

theorem Json.resolved_map_location {document : Json} {matched : List Match}
    (hresolves : ∀ found ∈ matched, document.resolve? found.location = some found.value) :
    document.resolved (matched.map Match.location) = matched := by
  induction matched with
  | nil => rfl
  | cons found matched ih =>
      rw [List.forall_mem_cons] at hresolves
      have hrest := ih hresolves.2
      rw [resolved] at hrest
      rw [resolved, List.map_cons, List.filterMap_cons, hresolves.1, hrest]
      rfl

theorem mapM_ask_eq_zipWith (f : Json → StateM σ (Option Json)) (matched : List Match) :
    matched.mapM (Edit.ask f) = do
      let answers ← (matched.map Match.value).mapM f
      return List.zipWith Edit.mk (matched.map Match.location) answers := by
  induction matched with
  | nil => rfl
  | cons found matched ih =>
      rw [List.mapM_cons, ih, List.map_cons, List.mapM_cons]
      simp [Edit.ask]

theorem mapM_some_map (f : Json → StateM σ Json) (values : List Json) :
    (values.mapM fun value => some <$> f value) = List.map some <$> values.mapM f := by
  induction values with
  | nil => rfl
  | cons value values ih =>
      rw [List.mapM_cons, ih, List.mapM_cons]
      simp

namespace Path

theorem resolve?_of_mem_queryLocated {path : Path} {document : Json}
    (hwf : document.WellFormed) {found : Match}
    (hfound : found ∈ path.queryLocated document) :
    document.resolve? found.location = some found.value := by
  rw [queryLocated_eq_located] at hfound
  exact resolve?_of_mem_located hwf hfound

/-- What a document becomes with an answer for each match of a path, in the order of the
matches. -/
def answered (path : Path) (document : Json) (answers : List (Option Json)) : Json :=
  document.rebuild
    (Edit.firstAnswer (List.zipWith Edit.mk (path.locate document) answers))

theorem tryReplaceAt_locate (path : Path) {document : Json} (hwf : document.WellFormed)
    (f : Json → StateM σ (Option Json)) :
    document.tryReplaceAt (path.locate document) f = do
      let answers ← (path.query document).mapM f
      return path.answered document answers := by
  rw [Json.tryReplaceAt_eq_mapM hwf, locate,
    Json.resolved_map_location fun _ => resolve?_of_mem_queryLocated hwf,
    mapM_ask_eq_zipWith, query_eq_map_value]
  simp [answered, locate]

theorem replaceAt_locate (path : Path) {document : Json} (hwf : document.WellFormed)
    (f : Json → StateM σ Json) :
    document.replaceAt (path.locate document) f = do
      let answers ← (path.query document).mapM f
      return path.answered document (answers.map some) := by
  rw [Json.replaceAt, tryReplaceAt_locate path hwf, mapM_some_map]
  simp

/-- An edit of the matches of a path: each is asked about once, in their order, and the
document is rebuilt with the first answer for each location. -/
def editedBy (path : Path) (f : Json → StateM σ (Option Json)) (document : Json) :
    StateM σ Json := do
  let edits ← (path.queryLocated document).mapM (Edit.ask f)
  return document.rebuild (Edit.firstAnswer edits)

/-- An edit of the matches of a path with one answer for all of them. -/
def editedWith (path : Path) (answer : Option Json) (document : Json) : Json :=
  document.rebuild (.all ((path.queryLocated document).map Match.location) answer)

theorem tryReplaceAt_locate_eq_editedBy (path : Path) {document : Json}
    (hwf : document.WellFormed) (f : Json → StateM σ (Option Json)) :
    document.tryReplaceAt (path.locate document) f = path.editedBy f document := by
  rw [Json.tryReplaceAt_eq_mapM hwf, locate,
    Json.resolved_map_location fun _ => resolve?_of_mem_queryLocated hwf, editedBy]

theorem deleteAt_locate_eq_editedWith (path : Path) {document : Json}
    (hwf : document.WellFormed) :
    document.deleteAt (path.locate document) = path.editedWith (some .null) document :=
  Json.tryReplaceAt_const hwf (path.locate document) (some .null)

theorem removeAt_locate_eq_editedWith (path : Path) {document : Json}
    (hwf : document.WellFormed) :
    document.removeAt (path.locate document) = path.editedWith none document :=
  Json.tryReplaceAt_const hwf (path.locate document) none

/-- Where well formed values are answered with well formed values, a document
stays well formed. -/
theorem wellFormed_editedBy (path : Path) {document : Json} (hwf : document.WellFormed)
    {f : Json → StateM σ (Option Json)}
    (hf : ∀ value state, value.WellFormed →
      ∀ new, ((f value).run state).1 = some new → new.WellFormed) (state : σ) :
    ((path.editedBy f document).run state).1.WellFormed := by
  have hgood : ∀ edit ∈ (((path.queryLocated document).mapM (Edit.ask f)).run state).1,
      ∀ new, edit.answer = some new → new.WellFormed := by
    apply Json.forall_mem_mapM
    intro found hfound state
    exact hf found.value state (hwf.of_resolve? (resolve?_of_mem_queryLocated hwf hfound))
  apply Json.WellFormed.rebuild _ hwf
  intro location new hanswer
  obtain ⟨edit, hedit, hnew⟩ := Option.map_eq_some_iff.1 hanswer
  exact hgood edit (List.mem_of_find?_eq_some hedit) new hnew

theorem wellFormed_editedWith (path : Path) {document : Json} (hwf : document.WellFormed)
    {answer : Option Json} (hanswer : ∀ new, answer = some new → new.WellFormed) :
    (path.editedWith answer document).WellFormed := by
  apply Json.WellFormed.rebuild _ hwf
  intro location new hnew
  exact hanswer new (Answers.all_eq_some_iff.1 hnew).2

/-- A selector that holds a path and a document keeps the path and edits the document. -/
theorem run_tryReplaceWith_ready [JsonReader] (path : Path) (document : Json)
    (f : Json → StateM σ (Option Json)) :
    ((Selector.ready path document).tryReplaceWith f).run =
      (fun document => .ok (.ready path document)) <$>
        document.tryReplaceAt (path.locate document) f := rfl

/-- Every match is the value to which its location leads, so an edit of the matches
skips none.  What is asked about, by an edit in one call and by the edits of a selector,
are the values that the query answers, one after another. -/
theorem edits_ask_query [JsonReader] (path : Path) (document : Json)
    (hwf : document.WellFormed) :
    (∀ found ∈ path.queryLocated document,
      document.resolve? found.location = some found.value) ∧
    document.resolved (path.locate document) = path.queryLocated document ∧
    (∀ {σ : Type} (text : String) (f : Json → StateM σ Json), readPath text = .ok path →
      JsonSelect.replaceWith document text f = .ok do
        let answers ← (path.query document).mapM f
        return path.answered document (answers.map some)) ∧
    (∀ {σ : Type} (f : Json → StateM σ Json),
      ((Selector.ready path document).replaceWith f).run = do
        let answers ← (path.query document).mapM f
        return .ok (.ready path (path.answered document (answers.map some)))) ∧
    ∀ {σ : Type} (f : Json → StateM σ (Option Json)),
      ((Selector.ready path document).tryReplaceWith f).run = do
        let answers ← (path.query document).mapM f
        return .ok (.ready path (path.answered document answers)) := by
  have hresolves : ∀ found ∈ path.queryLocated document,
      document.resolve? found.location = some found.value :=
    fun _ => resolve?_of_mem_queryLocated hwf
  refine ⟨hresolves, Json.resolved_map_location hresolves, ?_, ?_, ?_⟩
  · intro σ text f hread
    rw [JsonSelect.replaceWith, hread]
    exact congrArg Except.ok (replaceAt_locate path hwf f)
  · intro σ f
    rw [Selector.replaceWith, run_tryReplaceWith_ready]
    change _ <$> document.replaceAt (path.locate document) f = _
    rw [replaceAt_locate path hwf f]
    simp
  · intro σ f
    rw [run_tryReplaceWith_ready, tryReplaceAt_locate path hwf f]
    simp

/-- Notes a value, and answers null for it. -/
def note (value : Json) : StateM (List Json) Json := do
  modify (· ++ [value])
  return .null

/-- The last elements of an array and of the array in it; what is asked about is what
the input holds, though the second is gone in the end. -/
theorem edits_ask_query_last :
    (Json.object [("a", .array [.null, .array [.bool true]])]).WellFormed ∧
      readPath "$..[-1]" = .ok ⟨[.descent, .index (-1)]⟩ ∧
      (JsonSelect.replaceWith (.object [("a", .array [.null, .array [.bool true]])])
        "$..[-1]" note).map (·.run []) =
        .ok (.object [("a", .array [.null, .null])],
          [.array [.bool true], .bool true]) := by
  have hwf : (Json.object [("a", .array [.null, .array [.bool true]])]).WellFormed := by
    simp [Json.WellFormed, Json.AllWellFormed, Json.MembersWellFormed, Json.Members.keys]
  have hread : readPath "$..[-1]" = .ok ⟨[.descent, .index (-1)]⟩ := rfl
  refine ⟨hwf, hread, ?_⟩
  rw [(edits_ask_query _ _ hwf).2.2.1 _ note hread]
  cbv

end Path
end JsonSelect
