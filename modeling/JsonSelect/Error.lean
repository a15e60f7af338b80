/-
What can go wrong when a path, given as text or held by a selector, is applied
to a document.
-/
import JsonSelect.Json.JsonReader
import JsonSelect.Path.Reader

namespace JsonSelect

variable [JsonReader]

inductive Error where
  | noPath
  | noDocument
  | invalidPath (error : Path.Error)
  /-- A document cannot be read, or a selected value is not of the type that it
  is asked for. -/
  | unreadable (error : JsonReader.Error)

def Error.message : Error → String
  | noPath => "no path is set"
  | noDocument => "no value is set"
  | invalidPath error => "invalid path: " ++ error.message
  | unreadable error => "serde error: " ++ JsonReader.describe error

/-- Reads a path. -/
def readPath (text : String) : Except Error Path :=
  (Path.ofText? text).mapError .invalidPath

/-- Reads a document. -/
def readDocument (text : String) : Except Error Json :=
  (JsonReader.read text).mapError .unreadable

end JsonSelect
