/-
Queries: what a path selects in a document, in document order, with or without
the locations.
-/
import JsonSelect.Selection.Filter

namespace JsonSelect

/-- A selected value and where it is. -/
structure Match where
  location : Location
  value : Json

namespace Path

/-- The path's moves in a document. -/
def moves (path : Path) (document : Json) : List Move :=
  Step.moves document path.steps

/-- Goes through the matches in order. -/
def fold {σ : Type} (path : Path) (document : Json) (f : σ → Node → σ) (state : σ) : σ :=
  walkFrom (fun state node => .yield (f state node)) (path.moves document) document state

def query (path : Path) (document : Json) : List Json :=
  (path.fold document (fun values node => node.value :: values) []).reverse

def queryLocated (path : Path) (document : Json) : List Match :=
  (path.fold document (fun found node => ⟨node.location, node.value⟩ :: found) []).reverse

/-- The first match; the walk stops there. -/
def queryFirst? (path : Path) (document : Json) : Option Json :=
  walkFrom (fun _ node => .done (some node.value)) (path.moves document) document none

/-- Whether the path selects anything. -/
def hasMatch (path : Path) (document : Json) : Bool :=
  (path.queryFirst? document).isSome

/-- The locations of all matches. -/
def locate (path : Path) (document : Json) : List Location :=
  (path.queryLocated document).map Match.location

end Path
end JsonSelect
