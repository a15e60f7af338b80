/-
The requests that a selector answers which is read, and a session with many of them.
-/
import JsonSelect.Selector

namespace JsonSelect

variable [JsonReader]

/-- What a selector can be asked to tell about the matches. -/
inductive Read : Type → Type 1 where
  | values : Read (List Json)
  | located : Read (List Match)
  | typed (α : Type) [OfJson α] : Read (List α)
  | text : Read String

inductive Request where
  | pathText (text : String)
  | path (path : Path)
  | document (document : Json)
  | read {α : Type} (read : Read α)

inductive Answer where
  | done
  | refused (error : Error)
  | told {α : Type} (answer : Except Error α)

namespace Selector

def read {α : Type} (selector : Selector) : Read α → Except Error α
  | .values => selector.select
  | .located => selector.selectLocated
  | @Read.typed _ β _ => selector.selectAs β
  | .text => selector.selectAsText

/-- The answer to a request, and the selector after it. -/
def respond (selector : Selector) : Request → Answer × Selector
  | .pathText text =>
      match selector.setPathText text with
      | .ok changed => (.done, changed)
      | .error error => (.refused error, selector)
  | .path path => (.done, selector.setPath path)
  | .document document => (.done, selector.setDocument document)
  | .read read => (.told (selector.read read), selector)

def session : Selector → List Request → List Answer
  | _, [] => []
  | selector, request :: requests =>
      (selector.respond request).1 :: session (selector.respond request).2 requests

end Selector
end JsonSelect
