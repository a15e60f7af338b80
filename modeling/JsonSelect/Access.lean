/-
Selecting and editing in one call, by the text of a path.
-/
import JsonSelect.Edit
import JsonSelect.Error
import JsonSelect.Json.Typed
import JsonSelect.Json.Writer
import JsonSelect.Selection.Query

namespace JsonSelect

variable [JsonReader]

/-- Reads selected values as values of a type, one after another.  The first that is
none of them ends the reading with its error. -/
def readAll (α : Type) [OfJson α] (values : List Json) : Except Error (List α) :=
  values.mapM fun value => (ofJson value).mapError .unreadable

/-- Reads a path once, to be applied to any document. -/
def compile (path : String) : Except Error (Json → List Json) :=
  return (← readPath path).query

def select (document : Json) (path : String) : Except Error (List Json) :=
  return (← readPath path).query document

/-- The path is read before the document. -/
def selectAs (α : Type) [OfJson α] (text path : String) : Except Error (List α) := do
  let path ← readPath path
  let document ← readDocument text
  readAll α (path.query document)

/-- The selected values as the text of an array. -/
def selectAsText (text path : String) : Except Error String := do
  let path ← readPath path
  let document ← readDocument text
  return (Json.array (path.query document)).toText

/-- Sets what the path selects to null. -/
def delete (document : Json) (path : String) : Except Error Json :=
  return document.deleteAt ((← readPath path).locate document)

/-- Takes what the path selects out of the document. -/
def remove (document : Json) (path : String) : Except Error Json :=
  return document.removeAt ((← readPath path).locate document)

/-- Replaces what the path selects, in the order of the matches. -/
def replaceWith {σ : Type} (document : Json) (path : String) (f : Json → StateM σ Json) :
    Except Error (StateM σ Json) :=
  return document.replaceAt ((← readPath path).locate document) f

end JsonSelect
