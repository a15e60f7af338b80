/-
A selector that edits, through any number of calls in any order.  What it
answers and what it holds is told by two halves that know nothing of each other,
a path and a document, each of which may be missing.  An edit is told by the
matches of the one in the other.  Whether a call moves out of the selector what
it works on makes no difference.
-/
import JsonSelect.Proofs.Edit.Selected
import JsonSelect.Selector.Calls

namespace JsonSelect

variable {σ : Type}

/-! Two halves, and what is well formed -/

structure Halves where
  path? : Option Path
  document? : Option Json

namespace Halves

/-- In the document, if there is one, each object has every key once. -/
def WellFormed (halves : Halves) : Prop :=
  ∀ document, halves.document? = some document → document.WellFormed

def setPath (path : Path) (halves : Halves) : Halves :=
  { halves with path? := some path }

def setDocument (document : Json) (halves : Halves) : Halves :=
  { halves with document? := some document }

theorem wellFormed_setDocument {document : Json} (hwf : document.WellFormed)
    (halves : Halves) :
    (halves.setDocument document).WellFormed := by
  rintro _ ⟨⟩
  exact hwf

end Halves

/-- What a selector holds. -/
def Selector.halves : Selector → Halves
  | .empty => ⟨none, none⟩
  | .withPath path => ⟨some path, none⟩
  | .withDocument document => ⟨none, some document⟩
  | .ready path document => ⟨some path, some document⟩

theorem Selector.halves_setPath (path : Path) (selector : Selector) :
    (selector.setPath path).halves = selector.halves.setPath path := by
  cases selector <;> rfl

theorem Selector.halves_setDocument (document : Json) (selector : Selector) :
    (selector.setDocument document).halves = selector.halves.setDocument document := by
  cases selector <;> rfl

/-- An answer, with the halves of the selector after it. -/
def Selector.seen {α : Type} (answered : α × Selector) : α × Halves :=
  (answered.1, answered.2.halves)

/-- Well formed values are answered with well formed values. -/
def AnswersWell (f : Json → StateM σ (Option Json)) : Prop :=
  ∀ value state, value.WellFormed → ∀ new, ((f value).run state).1 = some new →
    new.WellFormed

/-- In what a call brings along and in what its function answers, each object has
every key once. -/
def Call.WellFormed : Call σ → Prop
  | .document given => given.WellFormed
  | .input (.parsed given) => given.WellFormed
  | .replaceWith f => AnswersWell fun value => some <$> f value
  | .tryReplaceWith f => AnswersWell f
  | .pathText _ | .path _ | .input (.unread _) | .delete | .remove | .take => True

/-! What the halves tell -/

section Told

variable [JsonReader]

namespace Halves

/-- An edit needs both halves.  If both are missing it is the path that is asked for. -/
def edit (change : Path → Json → StateM σ Json) :
    StateT Halves (StateM σ) Reply := fun halves =>
  match halves.path?, halves.document? with
  | none, _ => return (.refused .noPath, halves)
  | some _, none => return (.refused .noDocument, halves)
  | some path, some document => do
      let edited ← change path document
      return (.done, halves.setDocument edited)

def answer (call : Call σ) : StateT Halves (StateM σ) Reply := fun halves =>
  match call with
  | .pathText text =>
      match readPath text with
      | .ok path => return (.done, halves.setPath path)
      | .error error => return (.refused error, halves)
  | .path path => return (.done, halves.setPath path)
  | .document document => return (.done, halves.setDocument document)
  | .input input =>
      match input.read with
      | .ok document => return (.done, halves.setDocument document)
      | .error error => return (.refused error, halves)
  | .delete =>
      (edit fun path document => return path.editedWith (some .null) document) halves
  | .remove => (edit fun path document => return path.editedWith none document) halves
  | .replaceWith f =>
      (edit fun path => path.editedBy fun value => some <$> f value) halves
  | .tryReplaceWith f => (edit fun path => path.editedBy f) halves
  | .take => return (.taken halves.document?, { halves with document? := none })

end Halves

theorem wellFormed_of_readDocument {text : String} {document : Json}
    (hread : readDocument text = .ok document) : document.WellFormed := by
  rw [readDocument] at hread
  cases htext : JsonReader.read text with
  | ok document' =>
      rw [htext] at hread
      obtain rfl := Except.ok.inj hread
      exact JsonReader.wellFormed_of_read htext
  | error error =>
      rw [htext] at hread
      cases hread

theorem Call.WellFormed.of_read {input : Input}
    (hcall : (Call.input (σ := σ) input).WellFormed) {given : Json}
    (hread : input.read = .ok given) : given.WellFormed := by
  cases input with
  | unread text => exact wellFormed_of_readDocument hread
  | parsed given' =>
      obtain rfl := Except.ok.inj hread
      exact hcall

namespace Halves

theorem WellFormed.edit {halves : Halves} (hhalves : halves.WellFormed)
    {change : Path → Json → StateM σ Json}
    (hchange : ∀ path document state, document.WellFormed →
      ((change path document).run state).1.WellFormed) (state : σ) :
    (((Halves.edit change).run halves).run state).1.2.WellFormed := by
  obtain ⟨path?, document?⟩ := halves
  cases path? with
  | none => exact hhalves
  | some path =>
      cases document? with
      | none => exact hhalves
      | some document =>
          exact wellFormed_setDocument
            (hchange path document state (hhalves document rfl)) _

/-- One call leaves what is held well formed. -/
theorem WellFormed.answer {halves : Halves} (hhalves : halves.WellFormed) {call : Call σ}
    (hcall : call.WellFormed) (state : σ) :
    (((Halves.answer call).run halves).run state).1.2.WellFormed := by
  cases call with
  | pathText text =>
      simp only [StateT.run, Halves.answer]
      cases readPath text with
      | ok path => exact hhalves
      | error error => exact hhalves
  | path path => exact hhalves
  | document document => exact wellFormed_setDocument hcall halves
  | input input =>
      simp only [StateT.run, Halves.answer]
      cases hread : input.read with
      | ok document => exact wellFormed_setDocument (hcall.of_read hread) halves
      | error error => exact hhalves
  | delete =>
      refine hhalves.edit (fun path document state hwf => ?_) state
      exact path.wellFormed_editedWith hwf (by rintro _ ⟨⟩; trivial)
  | remove =>
      refine hhalves.edit (fun path document state hwf => ?_) state
      exact path.wellFormed_editedWith hwf nofun
  | replaceWith f =>
      exact hhalves.edit (fun path _ state hwf =>
        path.wellFormed_editedBy hwf hcall state) state
  | tryReplaceWith f =>
      exact hhalves.edit (fun path _ state hwf =>
        path.wellFormed_editedBy hwf hcall state) state
  | take => rintro _ ⟨⟩

end Halves

namespace Selector

theorem answerInPlace_eq_answer (call : Call σ) : answerInPlace call = answer call := by
  funext selector
  cases call with
  | pathText text =>
      rw [answerInPlace, answer, setPathText]
      cases readPath text <;> rfl
  | input input =>
      cases input with
      | parsed document => rfl
      | unread text =>
          rw [answerInPlace, answer, setDocumentText, Input.read]
          cases readDocument text <;> rfl
  | path path => rfl
  | document document => rfl
  | delete => cases selector <;> rfl
  | remove => cases selector <;> rfl
  | replaceWith f => cases selector <;> rfl
  | tryReplaceWith f => cases selector <;> rfl
  | take => rfl

/-- An edit of the locations that a path selects, against an edit that
knows its matches. -/
theorem seen_settle_edit {selector : Selector} (hwf : selector.halves.WellFormed)
    {change : Json → List Location → Json} {change' : Path → Json → Json}
    (hsame : ∀ path document, document.WellFormed →
      change document (path.locate document) = change' path document) :
    (pure (seen (selector.settle (selector.edit change))) : StateM σ (Reply × Halves)) =
      (Halves.edit fun path document =>
        return change' path document).run selector.halves := by
  cases selector with
  | empty => rfl
  | withPath path => rfl
  | withDocument document => rfl
  | ready path document =>
      exact congrArg (fun edited => (pure (Reply.done, ⟨some path, some edited⟩) :
        StateM σ (Reply × Halves))) (hsame path document (hwf document rfl))

theorem seen_settle_tryReplaceWith {selector : Selector}
    (hwf : selector.halves.WellFormed) (f : Json → StateM σ (Option Json)) :
    (fun result => seen (selector.settle result)) <$> (selector.tryReplaceWith f).run =
      (Halves.edit fun path => path.editedBy f).run selector.halves := by
  cases selector with
  | empty => rfl
  | withPath path => rfl
  | withDocument document => rfl
  | ready path document =>
      rw [Path.run_tryReplaceWith_ready,
        path.tryReplaceAt_locate_eq_editedBy (hwf document rfl) f]
      rfl

/-- One call.  A selector answers what its halves tell, and holds what
they have become. -/
theorem seen_answer (call : Call σ) {selector : Selector}
    (hwf : selector.halves.WellFormed) :
    seen <$> (answer call).run selector = (Halves.answer call).run selector.halves := by
  have hpath (path : Path) :=
    congrArg (fun held => (pure (Reply.done, held) : StateM σ _))
    (halves_setPath path selector)
  have hdocument (document : Json) := congrArg
    (fun held => (pure (Reply.done, held) : StateM σ _))
      (halves_setDocument document selector)
  cases call with
  | pathText text =>
      rw [StateT.run, StateT.run, answer, Halves.answer, setPathText]
      cases readPath text with
      | error error => rfl
      | ok path => exact hpath path
  | input input =>
      cases input with
      | parsed document => exact hdocument document
      | unread text =>
          rw [StateT.run, StateT.run, answer, Halves.answer, setDocumentText, Input.read]
          cases readDocument text with
          | error error => rfl
          | ok document => exact hdocument document
  | path path => exact hpath path
  | document document => exact hdocument document
  | delete => exact seen_settle_edit hwf fun path _ => path.deleteAt_locate_eq_editedWith
  | remove => exact seen_settle_edit hwf fun path _ => path.removeAt_locate_eq_editedWith
  | replaceWith f => exact seen_settle_tryReplaceWith hwf fun value => some <$> f value
  | tryReplaceWith f => exact seen_settle_tryReplaceWith hwf f
  | take => cases selector <;> rfl

/-- Any number of calls, by induction on their list: what is held stays well formed. -/
theorem seen_mapM_answer {calls : List (Call σ)}
    (hcalls : ∀ call ∈ calls, call.WellFormed) {selector : Selector}
    (hwf : selector.halves.WellFormed) :
    seen <$> (calls.mapM answer).run selector =
      (calls.mapM Halves.answer).run selector.halves := by
  induction calls generalizing selector with
  | nil => rfl
  | cons call calls ih =>
      rw [List.forall_mem_cons] at hcalls
      simp only [List.mapM_cons, StateT.run_bind, StateT.run_pure, map_bind, map_pure,
        ← seen_answer call hwf, bind_map_left]
      funext state
      have hheld := hwf.answer hcalls.1 state
      rw [← seen_answer call hwf] at hheld
      let answered := ((answer call).run selector).run state
      have hrest := congrFun (@ih hcalls.2 answered.1.2 hheld) answered.2
      exact congrArg (fun result =>
        ((answered.1.1 :: result.1.1, result.1.2), result.2)) hrest

/-- Through any number of calls, in any order and with any arguments, a new selector
answers what two halves tell that are missing at first, and holds what they have become.
So it does if the calls work on one place from which they move what they need.  An edit
makes of the document what the answers for the matches make of it, and so do the edits
in one call by the text of a path. -/
theorem answers_as_halves {calls : List (Call σ)}
    (hcalls : ∀ call ∈ calls, call.WellFormed) :
    seen <$> (calls.mapM answer).run .empty =
      (calls.mapM Halves.answer).run ⟨none, none⟩ ∧
    (calls.mapM answerInPlace).run .empty = (calls.mapM answer).run .empty ∧
    ∀ (document : Json) (text : String), document.WellFormed →
      JsonSelect.delete document text =
        (fun path => path.editedWith (some .null) document) <$> readPath text ∧
      JsonSelect.remove document text =
        (fun path => path.editedWith none document) <$> readPath text ∧
      ∀ f : Json → StateM σ Json, JsonSelect.replaceWith document text f =
        (fun path => path.editedBy (fun value => some <$> f value) document) <$>
          readPath text := by
  refine ⟨seen_mapM_answer hcalls nofun, ?_, ?_⟩
  · rw [funext answerInPlace_eq_answer]
  · intro document text hwf
    refine ⟨?_, ?_, fun f => ?_⟩
    · rw [JsonSelect.delete, ← map_eq_pure_bind]
      simp only [Path.deleteAt_locate_eq_editedWith _ hwf]
    · rw [JsonSelect.remove, ← map_eq_pure_bind]
      simp only [Path.removeAt_locate_eq_editedWith _ hwf]
    · rw [JsonSelect.replaceWith, ← map_eq_pure_bind]
      simp only [Json.replaceAt, Path.tryReplaceAt_locate_eq_editedBy _ hwf]

end Selector

end Told

namespace Selector

/-- Answers with the number of values seen before. -/
def countSeen (_ : Json) : StateM Nat Json := do
  let seen ← get
  set (seen + 1)
  return .number (.integer (seen % 10) (by omega))

/-- An edit is refused where the path is missing, and one where the document is.
Between them stands a path that cannot be read, and an edit of two matches, one of
which lies deeper. -/
theorem answers_as_halves_refused :
    let path : Path := ⟨[.descent, .index 0]⟩
    let calls := [.input (.unread "\x7b\"a\":[true,[null]]\x7d"), .delete, .pathText "$[",
      .pathText "$..[0]", .replaceWith countSeen, .take, .remove]
    (∀ call ∈ calls, call.WellFormed) ∧
      (seen <$> (calls.mapM answer).run .empty).run 0 =
        (([.done, .refused .noPath, .refused (.invalidPath ⟨.invalidBracket, 2⟩), .done,
          .done, .taken (some (.object [("a", .array [.number (.integer 0 (by decide)),
            .array [.number (.integer 1 (by decide))]])])),
          .refused .noDocument], ⟨some path, none⟩), 2) := by
  intro path calls
  have hcalls : ∀ call ∈ calls, call.WellFormed := by
    simp only [calls, List.forall_mem_cons]
    refine ⟨trivial, trivial, trivial, trivial, ?_, trivial, trivial, nofun⟩
    rintro value state - _ ⟨⟩
    trivial
  refine ⟨hcalls, ?_⟩
  rw [(answers_as_halves hcalls).1]
  cbv

end Selector

end JsonSelect
