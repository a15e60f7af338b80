/-
The canonical text of a path: every step but a descent stands in brackets, and
every connective in parentheses.  Each writer puts its text in front of what
follows.
-/
import JsonSelect.Path.Basic
import JsonSelect.Path.Quoted

namespace JsonSelect

def Item.write (after : List Char) : Item → List Char
  | .key name => Path.Quoted.write name after
  | .index position => Numeral.ofInt position.toInt ++ after

/-- Items with commas between them. -/
def Item.writeAll (after : List Char) : List Item → List Char
  | [] => after
  | [item] => item.write after
  | item :: rest => item.write (',' :: Item.writeAll after rest)

/-- The step is left out if it is one. -/
def Slice.write (after : List Char) (slice : Slice) : List Char :=
  let step := if slice.step = 1 then after
    else ':' :: Numeral.ofInt slice.step.toInt ++ after
  let bound (position : Option Int64) := position.elim [] fun i => Numeral.ofInt i.toInt
  bound slice.start ++ ':' :: bound slice.stop ++ step

def Slice.toText (slice : Slice) : String :=
  String.ofList (slice.write [])

def Scalar.write (after : List Char) : Scalar → List Char
  | .null => 'n' :: 'u' :: 'l' :: 'l' :: after
  | .bool true => 't' :: 'r' :: 'u' :: 'e' :: after
  | .bool false => 'f' :: 'a' :: 'l' :: 's' :: 'e' :: after
  | .number value => value.toText ++ after
  | .string value => Path.Quoted.write value after

/-- A slash inside the source is written with a backslash. -/
def Pattern.write (after : List Char) (pattern : Pattern) : List Char :=
  let source := pattern.source.toList.flatMap fun c =>
    if c = '/' then ['\\', '/'] else [c]
  '/' :: source ++ '/' :: pattern.flags.map Flag.letter ++ after

mutual

def Step.write (after : List Char) : Step → List Char
  | .key name => '[' :: Path.Quoted.write name (']' :: after)
  | .index position => '[' :: Numeral.ofInt position.toInt ++ ']' :: after
  | .wildcard => '[' :: '*' :: ']' :: after
  | .descent => '.' :: '.' :: after
  | .slice slice => '[' :: slice.write (']' :: after)
  | .union items => '[' :: Item.writeAll (']' :: after) items
  | .filter predicate => '[' :: '?' :: '(' :: predicate.write (')' :: ']' :: after)

def Step.writeAll (after : List Char) : List Step → List Char
  | [] => after
  | step :: rest => step.write (Step.writeAll after rest)

def Predicate.write (after : List Char) : Predicate → List Char
  | .compare comparison left right =>
      left.write (' ' :: comparison.symbol.toList ++ ' ' :: right.write after)
  | .matching operand pattern =>
      operand.write (' ' :: '=' :: '~' :: ' ' :: pattern.write after)
  | .bare operand => operand.write after
  | .and left right =>
      '(' :: left.write (' ' :: '&' :: '&' :: ' ' :: right.write (')' :: after))
  | .or left right =>
      '(' :: left.write (' ' :: '|' :: '|' :: ' ' :: right.write (')' :: after))
  | .not inner => '!' :: '(' :: inner.write (')' :: after)

def Operand.write (after : List Char) : Operand → List Char
  | .path anchor steps => anchor.symbol :: Step.writeAll after steps
  | .literal value => value.write after

end

def Path.write (after : List Char) (path : Path) : List Char :=
  '$' :: Step.writeAll after path.steps

def Path.toText (path : Path) : String :=
  String.ofList (path.write [])

end JsonSelect
