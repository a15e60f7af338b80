/-
A selector that is read, through any number of requests in any order.  What it
answers depends on the path that was set last and on the document that was set
last, and on nothing else that was asked: reading leaves no trace, and neither
does a path that cannot be read.
-/
import JsonSelect.Proofs.Selector.Histories
import JsonSelect.Selector.Requests

namespace JsonSelect

section Told

variable [JsonReader]

/-- What is to be told when both halves are there. -/
def Read.told {α : Type} (path : Path) (document : Json) : Read α → Except Error α
  | .values => .ok (path.query document)
  | .located => .ok (path.queryLocated document)
  | @typed _ β _ => readAll β (path.query document)
  | .text => .ok (Json.array (path.query document)).toText

/-! What the requests tell -/

namespace Request

/-- The path that a request sets, unless it fails to. -/
def path? : Request → Option Path
  | .pathText text => (readPath text).toOption
  | .path given => some given
  | _ => none

def document? : Request → Option Json
  | .document given => some given
  | _ => none

def lastPath? (history : List Request) : Option Path :=
  history.reverse.findSome? path?

def lastDocument? (history : List Request) : Option Json :=
  history.reverse.findSome? document?

/-- The answer to a request that some others came before.  Of two halves that are
missing the path is named. -/
def answerAfter (history : List Request) : Request → Answer
  | .pathText text =>
      match readPath text with
      | .ok _ => .done
      | .error error => .refused error
  | .path _ => .done
  | .document _ => .done
  | .read asked => .told <|
      match lastPath? history, lastDocument? history with
      | none, _ => .error .noPath
      | some _, none => .error .noDocument
      | some found, some value => asked.told found value

theorem lastPath?_concat (history : List Request) (request : Request) :
    lastPath? (history ++ [request]) = request.path?.or (lastPath? history) := by
  rw [lastPath?, List.reverse_concat, List.findSome?_cons]
  cases request.path? <;> rfl

theorem lastDocument?_concat (history : List Request) (request : Request) :
    lastDocument? (history ++ [request]) =
      request.document?.or (lastDocument? history) := by
  rw [lastDocument?, List.reverse_concat, List.findSome?_cons]
  cases request.document? <;> rfl

end Request

namespace Selector

/-- A selector holds the last path and the last document of a history. -/
def Holds (history : List Request) (selector : Selector) : Prop :=
  selector.halves = ⟨Request.lastPath? history, Request.lastDocument? history⟩

theorem respond_pathText_of_error {text : String} {error : Error}
    (hread : readPath text = .error error) (selector : Selector) :
    selector.respond (.pathText text) = (.refused error, selector) := by
  rw [respond, setPathText, hread]
  rfl

theorem respond_pathText_of_ok {text : String} {path : Path}
    (hread : readPath text = .ok path) (selector : Selector) :
    selector.respond (.pathText text) = (.done, selector.setPath path) := by
  rw [respond, setPathText, hread]
  rfl

/-- What is read depends on the halves alone. -/
theorem Holds.read_eq {history : List Request} {selector : Selector}
    (hholds : selector.Holds history) {α : Type} (asked : Read α) :
    Answer.told (selector.read asked) = Request.answerAfter history (.read asked) := by
  have hpath : Request.lastPath? history = selector.halves.path? :=
    (congrArg Halves.path? hholds).symm
  have hdocument : Request.lastDocument? history = selector.halves.document? :=
    (congrArg Halves.document? hholds).symm
  rw [Request.answerAfter, hpath, hdocument]
  cases selector <;> cases asked <;> rfl

theorem Holds.respond_fst {history : List Request} {selector : Selector}
    (hholds : selector.Holds history) (request : Request) :
    (selector.respond request).1 = Request.answerAfter history request := by
  cases request with
  | pathText text =>
      cases hread : readPath text with
      | error error => rw [respond_pathText_of_error hread, Request.answerAfter, hread]
      | ok path => rw [respond_pathText_of_ok hread, Request.answerAfter, hread]
  | path path => rfl
  | document document => rfl
  | read read => exact hholds.read_eq read

/-- One request: what is held then is what the request sets, and for the rest
what was held. -/
theorem Holds.respond_snd {history : List Request} {selector : Selector}
    (hholds : selector.Holds history) (request : Request) :
    (selector.respond request).2.Holds (history ++ [request]) := by
  rw [Holds] at hholds
  rw [Holds, Request.lastPath?_concat, Request.lastDocument?_concat]
  cases request with
  | pathText text =>
      cases hread : readPath text with
      | error error =>
          rw [respond_pathText_of_error hread, hholds, Request.path?, hread]
          rfl
      | ok path =>
          rw [respond_pathText_of_ok hread, halves_setPath, hholds, Request.path?, hread]
          rfl
  | path path => exact (halves_setPath path selector).trans (congrArg _ hholds)
  | document document =>
      exact (halves_setDocument document selector).trans (congrArg _ hholds)
  | read read => exact hholds

/-- Any number of requests, by induction on their list. -/
theorem Holds.getElem?_session {history : List Request} {selector : Selector}
    (hholds : selector.Holds history) (requests : List Request) (i : Nat) :
    (selector.session requests)[i]? =
      requests[i]?.map (Request.answerAfter (history ++ requests.take i)) := by
  induction requests generalizing selector history i with
  | nil => rfl
  | cons request requests ih =>
      rw [session]
      cases i with
      | zero =>
          rw [List.take_zero, List.append_nil]
          exact congrArg some (hholds.respond_fst request)
      | succ i =>
          rw [List.getElem?_cons_succ, List.getElem?_cons_succ,
            ih (hholds.respond_snd request), List.take_succ_cons, List.append_assoc]
          rfl

/-- A request after which a selector is what it was might as well not have been made. -/
theorem eraseIdx_session {request : Request}
    (hsame : ∀ selector : Selector, (selector.respond request).2 = selector)
    (front back : List Request) (selector : Selector) :
    (selector.session (front ++ request :: back)).eraseIdx front.length =
      selector.session (front ++ back) := by
  induction front generalizing selector with
  | nil =>
      rw [List.nil_append, session, hsame]
      rfl
  | cons first front ih =>
      rw [List.cons_append, session, List.length_cons, List.eraseIdx_cons_succ, ih]
      rfl

end Selector

/-! Values of a type -/

section Typed

variable {α : Type} [OfJson α]

/-- The value is read as one of a type. -/
abbrev Fits (value : Json) (a : α) : Prop :=
  ofJson value = .ok a

/-- The value is not read as one of a type, for a reason. -/
abbrev Misfits (α : Type) [OfJson α] (value : Json) (reason : JsonReader.Error) : Prop :=
  (ofJson value : Except JsonReader.Error α) = .error reason

theorem readAll_cons_of_fits {value : Json} {a : α} (hfits : Fits value a)
    (values : List Json) :
    readAll α (value :: values) = (a :: ·) <$> readAll α values := by
  rw [readAll, List.mapM_cons, hfits]
  rfl

theorem readAll_cons_of_misfits {value : Json} {reason : JsonReader.Error}
    (hmisfits : Misfits α value reason) (values : List Json) :
    readAll α (value :: values) = .error (.unreadable reason) := by
  rw [readAll, List.mapM_cons, hmisfits]
  rfl

/-- Values that fit are read one after another, before those behind them. -/
theorem readAll_append {front : List Json} {typed : List α}
    (hfits : List.Forall₂ Fits front typed) (values : List Json) :
    readAll α (front ++ values) = (typed ++ ·) <$> readAll α values := by
  induction hfits with
  | nil => exact (id_map _).symm
  | cons hfits _ ih =>
      rw [List.cons_append, readAll_cons_of_fits hfits, ih, ← comp_map]
      rfl

/-- The first value that does not fit, if there is one: all before it do. -/
def FirstMisfit (α : Type) [OfJson α] (values : List Json) (reason : JsonReader.Error) :
    Prop :=
  ∃ front value back, values = front ++ value :: back ∧
    (∃ typed : List α, List.Forall₂ Fits front typed) ∧ Misfits α value reason

theorem forall₂_fits_or_firstMisfit (values : List Json) :
    (∃ typed : List α, List.Forall₂ Fits values typed) ∨
      ∃ reason, FirstMisfit α values reason := by
  induction values with
  | nil => exact Or.inl ⟨[], .nil⟩
  | cons value values ih =>
      cases hvalue : (ofJson value : Except JsonReader.Error α) with
      | error reason =>
          exact Or.inr ⟨reason, [], value, values, rfl, ⟨[], .nil⟩, hvalue⟩
      | ok a =>
          rcases ih with
            ⟨typed, hfits⟩ | ⟨reason, front, misfit, back, rfl, ⟨typed, hfits⟩, hmisfits⟩
          · exact Or.inl ⟨a :: typed, .cons hvalue hfits⟩
          · exact Or.inr ⟨reason, value :: front, misfit, back, rfl,
              ⟨a :: typed, .cons hvalue hfits⟩, hmisfits⟩

theorem readAll_of_fits {values : List Json} {typed : List α}
    (hfits : List.Forall₂ Fits values typed) : readAll α values = .ok typed := by
  have hread := readAll_append hfits []
  rw [List.append_nil] at hread
  exact hread.trans (congrArg Except.ok typed.append_nil)

/-- The first value that does not fit ends the reading, whatever is behind it. -/
theorem FirstMisfit.readAll_eq {values : List Json} {reason : JsonReader.Error}
    (hfirst : FirstMisfit α values reason) :
    readAll α values = .error (.unreadable reason) := by
  obtain ⟨front, value, back, rfl, ⟨typed, hfits⟩, hmisfits⟩ := hfirst
  rw [readAll_append hfits, readAll_cons_of_misfits hmisfits]
  rfl

theorem readAll_eq_ok_iff {values : List Json} {typed : List α} :
    readAll α values = .ok typed ↔ List.Forall₂ Fits values typed := by
  refine ⟨fun hread => ?_, readAll_of_fits⟩
  rcases forall₂_fits_or_firstMisfit (α := α) values with
    ⟨typed', hfits⟩ | ⟨reason, hfirst⟩
  · rw [readAll_of_fits hfits, Except.ok.injEq] at hread
    exact hread ▸ hfits
  · rw [hfirst.readAll_eq] at hread
    cases hread

theorem readAll_eq_error_iff {values : List Json} {error : Error} :
    readAll α values = .error error ↔
      ∃ reason, FirstMisfit α values reason ∧ error = .unreadable reason := by
  constructor
  · intro hread
    rcases forall₂_fits_or_firstMisfit (α := α) values with
      ⟨typed, hfits⟩ | ⟨reason, hfirst⟩
    · rw [readAll_of_fits hfits] at hread
      cases hread
    · rw [hfirst.readAll_eq, Except.error.injEq] at hread
      exact ⟨reason, hfirst, hread.symm⟩
  · rintro ⟨reason, hfirst, rfl⟩
    exact hfirst.readAll_eq

end Typed

namespace Selector

/-- A new selector answers every request by the last path and the last document that
were set before it.  A reading, and a path that cannot be read, change no other answer
than their own.  Values of a type are read in order, and if there is one that does not
fit, the error is that of the first. -/
theorem session_answers_by_last_settings (requests : List Request) :
    (∀ i, (session .empty requests)[i]? =
      requests[i]?.map (Request.answerAfter (requests.take i))) ∧
    (∀ (front back : List Request) {α : Type} (asked : Read α),
      (session .empty (front ++ .read asked :: back)).eraseIdx front.length =
        session .empty (front ++ back)) ∧
    (∀ (front back : List Request) (text : String) (error : Error),
      readPath text = .error error →
        (session .empty (front ++ .pathText text :: back))[front.length]? =
          some (.refused error) ∧
        (session .empty (front ++ .pathText text :: back)).eraseIdx front.length =
          session .empty (front ++ back)) ∧
    ∀ {α : Type} [OfJson α] (values : List Json),
      (∀ typed : List α, readAll α values = .ok typed ↔ List.Forall₂ Fits values typed) ∧
      ∀ error, readAll α values = .error error ↔
        ∃ reason, FirstMisfit α values reason ∧ error = .unreadable reason := by
  have hempty : Selector.empty.Holds [] := rfl
  refine ⟨hempty.getElem?_session requests, ?_, ?_, ?_⟩
  · intro front back α asked
    exact eraseIdx_session (fun _ => rfl) front back .empty
  · intro front back text error hread
    constructor
    · rw [hempty.getElem?_session, List.getElem?_append_right (Nat.le_refl _),
        Nat.sub_self,
        List.getElem?_cons_zero, Option.map_some, Request.answerAfter, hread]
    · exact eraseIdx_session (fun selector => congrArg Prod.snd
        (respond_pathText_of_error hread selector)) front back .empty
  · exact fun values => ⟨fun _ => readAll_eq_ok_iff, fun _ => readAll_eq_error_iff⟩

end Selector

end Told

namespace Selector

/-- Between two readings stands a path that cannot be read; the second is told as the
first was.  Of the matches the second and the third are no texts, and the error is that
of the second. -/
theorem session_answers_by_last_settings_refused :
    let three := Json.number (.integer 3 (by decide))
    let document := Json.object [("a", .array [.string "x", .null, three])]
    let error := Error.invalidPath ⟨.invalidBracket, 2⟩
    let requests :=
      [.pathText "$.a[*]", .document document, .pathText "$[", .read .values,
      .read (.typed String)]
    readPath "$[" = .error error ∧
      (session .empty requests)[2]? = some (.refused error) ∧
      (session .empty requests).eraseIdx 2 =
        [.done, .done, .told (.ok [Json.string "x", .null, three]),
          .told (.error (α := List String)
            (.unreadable (Json.Error.wrongKind .null "a string")))] := by
  intro three document error requests
  have hread : readPath "$[" = .error error := by cbv
  obtain ⟨hrefused, herased⟩ := (session_answers_by_last_settings []).2.2.1
    [.pathText "$.a[*]", .document document]
      [.read .values, .read (.typed String)] "$[" error hread
  refine ⟨hread, hrefused, herased.trans ?_⟩
  cbv

end Selector

end JsonSelect
