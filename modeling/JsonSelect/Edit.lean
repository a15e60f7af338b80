/-
Edits of a document at given locations.  First every location that resolves gets
its answer, from the value that the document has there; then the answers are
written, later locations before earlier ones, so that a value is written before
any container around it and no removal moves what is still to be written.
-/
import JsonSelect.Location.Basic

namespace JsonSelect

/-- The answer for a location: a new value, or none if what is there is to
be taken away. -/
structure Edit where
  location : Location
  answer : Option Json

namespace Edit

/-- Puts an edit in its place among edits whose locations fall.  An edit that is there
already stays the only one at its location. -/
def insert (edit : Edit) : List Edit → List Edit
  | [] => [edit]
  | other :: rest =>
      match compare edit.location other.location with
      | .gt => edit :: other :: rest
      | .eq => other :: rest
      | .lt => other :: insert edit rest

/-- The edits in the order in which they are written: locations fall, and of several
edits at one location the first remains. -/
def schedule (edits : List Edit) : List Edit :=
  edits.foldl (fun scheduled edit => insert edit scheduled) []

/-- Writes an answer.  The root cannot be taken away and becomes null. -/
def apply (document : Json) (edit : Edit) : Json :=
  match edit.answer with
  | some value => (document.set? edit.location value).getD document
  | none =>
      match edit.location.splitLast? with
      | none => .null
      | some (parent, last) => (document.update? (·.eraseChild last) parent).getD document

end Edit

namespace Json

variable {σ : Type}

/-- Asks for an answer at each location that resolves, in the order of the list. -/
def answersAt (document : Json) (f : Json → StateM σ (Option Json)) :
    List Location → StateM σ (List Edit)
  | [] => pure []
  | location :: rest =>
      match document.resolve? location with
      | none => document.answersAt f rest
      | some value => do
          let answer ← f value
          let edits ← document.answersAt f rest
          pure (⟨location, answer⟩ :: edits)

/-- Replaces the values at some locations by the answers for them, and takes those away
for which there is none. -/
def tryReplaceAt (document : Json) (locations : List Location)
    (f : Json → StateM σ (Option Json)) : StateM σ Json := do
  let edits ← document.answersAt f locations
  pure ((Edit.schedule edits).foldl Edit.apply document)

def replaceAt (document : Json) (locations : List Location) (f : Json → StateM σ Json) :
    StateM σ Json :=
  document.tryReplaceAt locations fun value => some <$> f value

/-- Sets the values at some locations to null. -/
def deleteAt (document : Json) (locations : List Location) : Json :=
  (document.tryReplaceAt (σ := Unit) locations (fun _ => pure (some .null)) ()).1

/-- Takes the values at some locations out of their containers. -/
def removeAt (document : Json) (locations : List Location) : Json :=
  (document.tryReplaceAt (σ := Unit) locations (fun _ => pure none) ()).1

end Json
end JsonSelect
