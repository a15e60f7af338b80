/-
Selectors hold a path and a document, each of which may still be missing, and
may be given anew at any time.  They select, and they edit the document that
they hold.
-/
import JsonSelect.Access

namespace JsonSelect

inductive Selector where
  | empty
  | withPath (path : Path)
  | withDocument (document : Json)
  | ready (path : Path) (document : Json)

namespace Selector

variable {σ : Type}

def setPath (path : Path) : Selector → Selector
  | .empty => .withPath path
  | .withPath _ => .withPath path
  | .withDocument document => .ready path document
  | .ready _ document => .ready path document

def setDocument (document : Json) : Selector → Selector
  | .empty => .withDocument document
  | .withDocument _ => .withDocument document
  | .withPath path => .ready path document
  | .ready path _ => .ready path document

/-- Gives the document away and keeps the path. -/
def take : Selector → Option Json × Selector
  | .empty => (none, .empty)
  | .withPath path => (none, .withPath path)
  | .withDocument document => (some document, .empty)
  | .ready path document => (some document, .withPath path)

variable [JsonReader]

/-- Both halves; of two that are missing the path is named. -/
def both : Selector → Except Error (Path × Json)
  | .ready path document => .ok (path, document)
  | .withPath _ => .error .noDocument
  | _ => .error .noPath

/-- Reads the path from a text. -/
def setPathText (text : String) (selector : Selector) : Except Error Selector :=
  return selector.setPath (← readPath text)

/-- Reads the document from a text. -/
def setDocumentText (text : String) (selector : Selector) : Except Error Selector :=
  return selector.setDocument (← readDocument text)

def select (selector : Selector) : Except Error (List Json) := do
  let (path, document) ← selector.both
  return path.query document

def selectLocated (selector : Selector) : Except Error (List Match) := do
  let (path, document) ← selector.both
  return path.queryLocated document

def selectAs (α : Type) [OfJson α] (selector : Selector) : Except Error (List α) := do
  readAll α (← selector.select)

def selectAsText (selector : Selector) : Except Error String :=
  return (Json.array (← selector.select)).toText

/-- Puts the edited document in the place of the one that is held. -/
def edit (change : Json → List Location → Json) (selector : Selector) :
    Except Error Selector := do
  let (path, document) ← selector.both
  return .ready path (change document (path.locate document))

def delete (selector : Selector) : Except Error Selector :=
  selector.edit Json.deleteAt

def remove (selector : Selector) : Except Error Selector :=
  selector.edit Json.removeAt

/-- Replaces what the path selects by the answers for it; where there is none it is
taken away.  Nothing is asked unless both halves are there. -/
def tryReplaceWith (f : Json → StateM σ (Option Json)) (selector : Selector) :
    ExceptT Error (StateM σ) Selector := do
  let (path, document) ← liftExcept selector.both
  return .ready path (← document.tryReplaceAt (path.locate document) f)
where
  liftExcept {α : Type} (result : Except Error α) : ExceptT Error (StateM σ) α :=
    ExceptT.mk (pure result)

def replaceWith (f : Json → StateM σ Json) (selector : Selector) :
    ExceptT Error (StateM σ) Selector :=
  selector.tryReplaceWith fun value => some <$> f value

end Selector
end JsonSelect
