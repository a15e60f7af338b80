/-
The calls that a selector takes which edits, and what it answers to each.  A
call may as well move out of the selector what it works on, as long as
everything is in its place again afterwards, whether or not it is refused.
-/
import JsonSelect.Selector

namespace JsonSelect

variable {σ : Type}

/-- A document, as a text or already read. -/
inductive Input where
  | unread (text : String)
  | parsed (document : Json)

def Input.read [JsonReader] : Input → Except Error Json
  | .unread text => readDocument text
  | .parsed document => .ok document

/-- What a selector can be asked to do.  The functions that are handed to it may keep a
state between their calls, and from one edit to another. -/
inductive Call (σ : Type) where
  | pathText (text : String)
  | path (path : Path)
  | document (document : Json)
  | input (input : Input)
  | delete
  | remove
  | replaceWith (f : Json → StateM σ Json)
  | tryReplaceWith (f : Json → StateM σ (Option Json))
  | take

inductive Reply [JsonReader] where
  | done
  | refused (error : Error)
  | taken (document : Option Json)

namespace Selector

variable [JsonReader]

/-- A selector to which something is refused stays what it was. -/
def settle (selector : Selector) : Except Error Selector → Reply × Selector
  | .ok changed => (.done, changed)
  | .error error => (.refused error, selector)

def answer (call : Call σ) : StateT Selector (StateM σ) Reply := fun selector =>
  match call with
  | .pathText text => return selector.settle (selector.setPathText text)
  | .path path => return (.done, selector.setPath path)
  | .document document => return (.done, selector.setDocument document)
  | .input (.unread text) => return selector.settle (selector.setDocumentText text)
  | .input (.parsed document) => return (.done, selector.setDocument document)
  | .delete => return selector.settle selector.delete
  | .remove => return selector.settle selector.remove
  | .replaceWith f => selector.settle <$> (selector.replaceWith f).run
  | .tryReplaceWith f => selector.settle <$> (selector.tryReplaceWith f).run
  | .take => return (.taken selector.take.1, selector.take.2)

/-! The same with everything in one place, from which it is moved -/

/-- Moves out what is held and leaves the place empty. -/
def moveOut : StateT Selector (StateM σ) Selector := do
  let held ← get
  set Selector.empty
  return held

/-- Moves both halves out if both are there. -/
def moveBoth : StateT Selector (StateM σ) (Except Error (Path × Json)) := do
  match (← get).both with
  | .error error => return .error error
  | .ok _ =>
      match ← moveOut with
      | .ready path document => return .ok (path, document)
      | held =>
          set held
          return .error .noPath

def editInPlace (change : Json → List Location → StateM σ Json) :
    StateT Selector (StateM σ) Reply := do
  match ← moveBoth with
  | .error error => return .refused error
  | .ok (path, document) =>
      let edited ← change document (path.locate document)
      set (Selector.ready path edited)
      return .done

def setPathInPlace (path : Path) : StateT Selector (StateM σ) Reply := do
  let held ← moveOut
  set (held.setPath path)
  return .done

def setDocumentInPlace (document : Json) : StateT Selector (StateM σ) Reply := do
  let held ← moveOut
  set (held.setDocument document)
  return .done

def answerInPlace : Call σ → StateT Selector (StateM σ) Reply
  | .pathText text =>
      match readPath text with
      | .error error => return .refused error
      | .ok path => setPathInPlace path
  | .path path => setPathInPlace path
  | .document document => setDocumentInPlace document
  | .input input =>
      match input.read with
      | .error error => return .refused error
      | .ok document => setDocumentInPlace document
  | .delete => editInPlace fun document locations => return document.deleteAt locations
  | .remove => editInPlace fun document locations => return document.removeAt locations
  | .replaceWith f => editInPlace fun document locations => document.replaceAt locations f
  | .tryReplaceWith f =>
      editInPlace fun document locations => document.tryReplaceAt locations f
  | .take => do
      let held ← moveOut
      let (document, rest) := held.take
      set rest
      return .taken document

end Selector
end JsonSelect
