/-
Runs of numbers, and the text in which the tables of this library are written:
`41-5a b5 100-12e/2` is every number from 41 to 5a, the number b5 and every
second one from 100 to 12e, in hexadecimal.  A run may be mapped to one of the
same length, as `41-5a>61` is.
-/
import JsonSelect.Text.Numeral

namespace JsonSelect

/-- The numbers from `first` to `last`, a step apart, and where the first of them
is mapped to. -/
structure Run where
  first : Nat
  last : Nat
  step : Nat
  target : Nat

namespace Run

def numbers (run : Run) : List Nat :=
  List.range' run.first ((run.last - run.first) / run.step + 1) run.step

/-- Each number with the one that it is mapped to. -/
def pairs (run : Run) : List (Nat × Nat) :=
  run.numbers.map fun number => (number, number - run.first + run.target)

/-- Sets the part of a run that stands after a mark.  What stands before any mark is a
run of one number that is mapped to itself. -/
def set (mark : Char) (run : Run) (number : Nat) : Run :=
  if mark = '-' then { run with last := number }
  else if mark = '/' then { run with step := number }
  else if mark = '>' then { run with target := number }
  else ⟨number, number, 1, number⟩

/-- Reads on where `mark` is the last mark that was read, `run` the run before it, and
`number` what was read since, if anything was. -/
def readFrom (mark : Char) (run : Run) (number : Option Nat) : List Char → List Run
  | [] => (number.map (run.set mark)).toList
  | c :: text =>
      match Numeral.hexadecimal? c with
      | some digit => readFrom mark run (some (number.getD 0 * 16 + digit)) text
      | none =>
          if c = '-' ∨ c = '/' ∨ c = '>' then
            readFrom c (run.set mark (number.getD 0)) none text
          else (number.map (run.set mark)).toList ++ readFrom ' ' run none text

/-- The runs of a text. -/
def ofText (text : String) : List Run :=
  readFrom ' ' ⟨0, 0, 1, 0⟩ none text.toList

end Run

example : (Run.ofText "41-43>61 b5").map Run.pairs =
    [[(0x41, 0x61), (0x42, 0x62), (0x43, 0x63)], [(0xb5, 0xb5)]] := by decide
example : (Run.ofText "100-104/2").map Run.numbers = [[0x100, 0x102, 0x104]] := by decide

end JsonSelect
