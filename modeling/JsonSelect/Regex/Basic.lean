/-
Regular expressions over characters.  Besides characters they may hold
conditions on the place in the text where they are tried, such as a word
boundary, and repetitions that are counted.  Expressions are put together by
`sequence`, `choice` and `repeated`, which keep them small.
-/
import JsonSelect.Sum
import JsonSelect.Text.Word

namespace JsonSelect

/-- A condition on the characters before and after a place in the text.  Either is
missing at an end of the text. -/
inductive Edge where
  | textStart
  | textEnd
  | lineStart
  | lineEnd
  /-- Lines may also end in a carriage return, alone or before a line feed. -/
  | crlfStart
  | crlfEnd
  | wordBoundary (ascii : Bool)
  | notWordBoundary (ascii : Bool)
  | wordStart (ascii : Bool)
  | wordEnd (ascii : Bool)
  /-- What comes before belongs to no word. -/
  | wordStartHalf (ascii : Bool)
  /-- What comes after belongs to no word. -/
  | wordEndHalf (ascii : Bool)
deriving DecidableEq

namespace Edge

/-- Whether there is a character and it belongs to a word. -/
def inWord (ascii : Bool) (c : Option Char) : Bool :=
  c.any fun c => if ascii then CharSet.asciiWord.contains c else isWordChar c

def holds (before after : Option Char) : Edge → Bool
  | .textStart => before.isNone
  | .textEnd => after.isNone
  | .lineStart => before.isNone || before = some '\n'
  | .lineEnd => after.isNone || after = some '\n'
  | .crlfStart =>
      before.isNone || before = some '\n' || before = some '\r' && after ≠ some '\n'
  | .crlfEnd =>
      after.isNone || after = some '\r' || after = some '\n' && before ≠ some '\r'
  | .wordBoundary ascii => inWord ascii before != inWord ascii after
  | .notWordBoundary ascii => inWord ascii before == inWord ascii after
  | .wordStart ascii => !inWord ascii before && inWord ascii after
  | .wordEnd ascii => inWord ascii before && !inWord ascii after
  | .wordStartHalf ascii => !inWord ascii before
  | .wordEndHalf ascii => !inWord ascii after

end Edge

inductive Regex where
  | empty
  /-- One character of an ordered set. -/
  | one (s : CharSet)
  | edge (e : Edge)
  | append (r s : Regex)
  | either (r s : Regex)
  /-- From `least` to `most` times, or any number of times from `least` on. -/
  | times (r : Regex) (least : Nat) (most : Option Nat)
  /-- What is in parentheses that remember where it matched. -/
  | group (r : Regex)
deriving DecidableEq

namespace Regex

/-- Whether only the empty text can match. -/
def matchesOnlyEmpty : Regex → Bool
  | .empty => true
  | .one _ => false
  | .edge _ => true
  | .append r s => r.matchesOnlyEmpty && s.matchesOnlyEmpty
  | .either r s => r.matchesOnlyEmpty && s.matchesOnlyEmpty
  | .times r _ most => most.isSome && r.matchesOnlyEmpty
  | .group r => r.matchesOnlyEmpty

/-- The expression from `least` to `most` times.  More than one round of the empty text
makes no difference, and no round at all is the empty text. -/
def repeated (r : Regex) (least : Nat) (most : Option Nat) : Regex :=
  let bounds :=
    if r.matchesOnlyEmpty then (min least 1, some (min (most.getD 1) 1))
      else (least, most)
  match bounds with
  | (0, some 0) => .empty
  | (1, some 1) => r
  | (least, most) => .times r least most

/-- What matches one after the other. -/
def parts : Regex → List Regex
  | .empty => []
  | .append r s => r.parts ++ s.parts
  | r => [r]

def ofParts : List Regex → Regex
  | [] => .empty
  | [r] => r
  | r :: rest => .append r (ofParts rest)

/-- One after the other. -/
def sequence (rs : List Regex) : Regex :=
  ofParts (rs.flatMap parts)

def alternatives : Regex → List Regex
  | .either r s => r.alternatives ++ s.alternatives
  | r => [r]

/-- Any one of the first and the others. -/
def ofAlternatives : Regex → List Regex → Regex
  | r, [] => r
  | r, s :: rest => .either r (ofAlternatives s rest)

/-- The set, if the expression is one character of a set. -/
def set? : Regex → Option CharSet
  | .one s => some s
  | _ => none

/-- The character, if there is only one that matches. -/
def char? (r : Regex) : Option Char :=
  r.set?.bind CharSet.only?

/-- One set in place of several, if all are characters or all are sets of
more or fewer. -/
def merged? (rs : List Regex) : Option CharSet := do
  let sets ← rs.mapM set?
  let areChars := sets.map fun s => s.only?.isSome
  if areChars.all id ∨ areChars.all not then some (.unionAll sets) else none

/-- The parts of an expression, where characters that follow one another are one part. -/
def segments (r : Regex) : List (List Regex) :=
  r.parts.foldr (fun part segments =>
    match segments with
    | (next :: others) :: rest =>
        if part.char?.isSome ∧ next.char?.isSome then (part :: next :: others) :: rest
        else [part] :: segments
    | _ => [part] :: segments) []

/-- The longest list with which both begin. -/
def commonPrefix {α : Type} [DecidableEq α] : List α → List α → List α
  | a :: as, b :: bs => if a = b then a :: commonPrefix as bs else []
  | _, _ => []

/-- What all begin with, if each has more than one part. -/
def commonSegments : List (List (List Regex)) → List (List Regex)
  | [] => []
  | first :: others =>
      if (first :: others).all (1 < ·.length) then others.foldl commonPrefix first else []

/-- Any one of the expressions.  Characters become a set, and what all begin with is
taken out in front, for which the first argument bounds how often. -/
def choiceWithin : Nat → List Regex → Regex
  | bound, rs =>
      match rs.flatMap alternatives with
      | [] => .one []
      | [r] => r
      | r :: rest =>
          match merged? (r :: rest) with
          | some s => .one s
          | none =>
              let segmented := (r :: rest).map segments
              let shared := commonSegments segmented
              match bound with
              | 0 => ofAlternatives r rest
              | bound + 1 =>
                  if shared.isEmpty then ofAlternatives r rest
                  else
                    sequence (shared.flatten ++ [choiceWithin bound
                      (segmented.map fun own =>
                        sequence (own.drop shared.length).flatten)])

/-- How many parts there are at any depth. -/
def count : Regex → Nat
  | .append r s => r.count + s.count
  | .either r s => r.count + s.count
  | _ => 1

/-- Any one of the expressions. -/
def choice (rs : List Regex) : Regex :=
  choiceWithin (sumOf count rs) rs

end Regex
end JsonSelect
