/-
Paths: steps from the root of a document to the values they select.  A filter
holds a predicate whose operands are paths again, so steps, predicates and
operands are defined together.  Equality of paths is decided by structure.
-/
import JsonSelect.Json.Scalar
import JsonSelect.Path.Pattern

namespace JsonSelect

/-- Every `step`-th element of an array from `start` on and before `stop`; a negative
bound counts from the end. -/
structure Slice where
  start : Option Int64
  stop : Option Int64
  step : Int64
  step_pos : 0 < step
deriving DecidableEq

/-- A slice goes forward. -/
def Slice.of? (start stop : Option Int64) (step : Int64) : Option Slice :=
  if h : 0 < step then some ⟨start, stop, step, h⟩ else none

/-- What a union lists. -/
inductive Item where
  | key (name : String)
  | index (position : Int64)
deriving DecidableEq

inductive Comparison where
  | equal
  | notEqual
  | less
  | lessOrEqual
  | greater
  | greaterOrEqual
deriving DecidableEq

namespace Comparison

def symbol : Comparison → String
  | equal => "=="
  | notEqual => "!="
  | less => "<"
  | lessOrEqual => "<="
  | greater => ">"
  | greaterOrEqual => ">="

def holds : Comparison → Ordering → Bool
  | equal, order => order == .eq
  | notEqual, order => order != .eq
  | less, order => order == .lt
  | lessOrEqual, order => order != .gt
  | greater, order => order == .gt
  | greaterOrEqual, order => order != .lt

end Comparison

/-- Where the path of an operand begins: at the document's root, or at the
value under test. -/
inductive Anchor where
  | root
  | current
deriving DecidableEq

def Anchor.symbol : Anchor → Char
  | root => '$'
  | current => '@'

mutual

inductive Step where
  | key (name : String)
  /-- A negative position counts from the end. -/
  | index (position : Int64)
  /-- Every child. -/
  | wildcard
  /-- The value itself and everything below it. -/
  | descent
  | slice (slice : Slice)
  | union (items : List Item)
  /-- The children for which the predicate holds. -/
  | filter (predicate : Predicate)

inductive Predicate where
  | compare (comparison : Comparison) (left right : Operand)
  /-- The operand is a text in which the pattern occurs. -/
  | matching (operand : Operand) (pattern : Pattern)
  /-- A bare operand: a path that selects something, or a literal that counts as true. -/
  | bare (operand : Operand)
  | and (left right : Predicate)
  | or (left right : Predicate)
  | not (inner : Predicate)

inductive Operand where
  | path (anchor : Anchor) (steps : List Step)
  | literal (value : Scalar)

end

/-- A path from the root of a document. -/
structure Path where
  steps : List Step

mutual

def Step.same : Step → Step → Bool
  | .key a, .key b => a = b
  | .index a, .index b => a = b
  | .wildcard, .wildcard => true
  | .descent, .descent => true
  | .slice a, .slice b => a = b
  | .union a, .union b => a = b
  | .filter a, .filter b => a.same b
  | _, _ => false

def Step.allSame : List Step → List Step → Bool
  | [], [] => true
  | a :: as, b :: bs => a.same b && Step.allSame as bs
  | _, _ => false

def Predicate.same : Predicate → Predicate → Bool
  | .compare c l r, .compare d l' r' => c = d && l.same l' && r.same r'
  | .matching o p, .matching o' p' => o.same o' && p = p'
  | .bare o, .bare o' => o.same o'
  | .and l r, .and l' r' => l.same l' && r.same r'
  | .or l r, .or l' r' => l.same l' && r.same r'
  | .not p, .not p' => p.same p'
  | _, _ => false

def Operand.same : Operand → Operand → Bool
  | .path a steps, .path b steps' => a = b && Step.allSame steps steps'
  | .literal a, .literal b => a = b
  | _, _ => false

end

mutual

theorem Step.same_iff : (a b : Step) → (a.same b = true ↔ a = b)
  | .key _, b => by cases b <;> simp [Step.same]
  | .index _, b => by cases b <;> simp [Step.same]
  | .wildcard, b => by cases b <;> simp [Step.same]
  | .descent, b => by cases b <;> simp [Step.same]
  | .slice _, b => by cases b <;> simp [Step.same]
  | .union _, b => by cases b <;> simp [Step.same]
  | .filter p, b => by cases b <;> simp [Step.same, Predicate.same_iff p]

theorem Step.allSame_iff : (as bs : List Step) → (Step.allSame as bs = true ↔ as = bs)
  | [], bs => by cases bs <;> simp [Step.allSame]
  | a :: as, bs => by
      cases bs <;> simp [Step.allSame, Step.same_iff a, Step.allSame_iff as]

theorem Predicate.same_iff : (p q : Predicate) → (p.same q = true ↔ p = q)
  | .compare _ l r, q => by
      cases q <;> simp [Predicate.same, Operand.same_iff l, Operand.same_iff r, and_assoc]
  | .matching o _, q => by cases q <;> simp [Predicate.same, Operand.same_iff o]
  | .bare o, q => by cases q <;> simp [Predicate.same, Operand.same_iff o]
  | .and l r, q => by
      cases q <;> simp [Predicate.same, Predicate.same_iff l, Predicate.same_iff r]
  | .or l r, q => by
      cases q <;> simp [Predicate.same, Predicate.same_iff l, Predicate.same_iff r]
  | .not p, q => by cases q <;> simp [Predicate.same, Predicate.same_iff p]

theorem Operand.same_iff : (o o' : Operand) → (o.same o' = true ↔ o = o')
  | .path _ steps, o' => by cases o' <;> simp [Operand.same, Step.allSame_iff steps]
  | .literal _, o' => by cases o' <;> simp [Operand.same]

end

instance : DecidableEq Step := fun a b => decidable_of_iff _ (Step.same_iff a b)

instance : DecidableEq Predicate := fun p q => decidable_of_iff _ (Predicate.same_iff p q)

instance : DecidableEq Operand := fun o o' => decidable_of_iff _ (Operand.same_iff o o')

instance : DecidableEq Path := fun p q =>
  decidable_of_iff (p.steps = q.steps) (by cases p; cases q; simp)

end JsonSelect
