/-
Sets of characters.  A set is a list of ranges of code points, both ends
included; it is ordered if its ranges go upwards and leave gaps between them,
and all operations here make ordered sets.
-/
import JsonSelect.Text.Run

namespace JsonSelect

abbrev CharSet := List (Nat × Nat)

namespace CharSet

def contains (s : CharSet) (c : Char) : Bool :=
  s.any fun range => range.1 ≤ c.toNat && c.toNat ≤ range.2

/-- The set of a text that is written as a table. -/
def ofText (text : String) : CharSet :=
  (Run.ofText text).flatMap fun run =>
    if run.step = 1 then [(run.first, run.last)]
    else run.numbers.map fun number => (number, number)

/-- The characters from one to another, both included. -/
def between (first last : Char) : CharSet :=
  [(first.toNat, last.toNat)]

def single (c : Char) : CharSet :=
  between c c

/-- Joins the range from `first` to `last` with those after it that it reaches. -/
def joinFrom (first last : Nat) : CharSet → CharSet
  | [] => [(first, last)]
  | range :: rest =>
      if range.1 ≤ last + 1 then joinFrom first (max last range.2) rest
      else (first, last) :: joinFrom range.1 range.2 rest

/-- The ranges in order, joined where they meet. -/
def ordered (s : CharSet) : CharSet :=
  match s.mergeSort fun a b => a.1 ≤ b.1 with
  | [] => []
  | range :: rest => joinFrom range.1 range.2 rest

def union (s t : CharSet) : CharSet :=
  ordered (s ++ t)

def unionAll (sets : List CharSet) : CharSet :=
  ordered sets.flatten

/-- The ranges between those of an ordered set, from the given code point on. -/
def gapsFrom (next : Nat) : CharSet → CharSet
  | [] => if next ≤ 0x10ffff then [(next, 0x10ffff)] else []
  | range :: rest =>
      if next < range.1 then (next, range.1 - 1) :: gapsFrom (range.2 + 1) rest
      else gapsFrom (range.2 + 1) rest

/-- The code points that are no characters. -/
def surrogates : CharSet := [(0xd800, 0xdfff)]

/-- The characters that are not in the set. -/
def compl (s : CharSet) : CharSet :=
  gapsFrom 0 (ordered (s ++ surrogates))

def inter (s t : CharSet) : CharSet :=
  compl (s.compl ++ t.compl)

/-- The characters of the first set that the second lacks. -/
def minus (s t : CharSet) : CharSet :=
  s.inter t.compl

/-- The characters of exactly one of two sets. -/
def differ (s t : CharSet) : CharSet :=
  union (s.minus t) (t.minus s)

def full : CharSet := compl []

def ascii : CharSet := [(0, 0x7f)]

def isAscii (s : CharSet) : Bool :=
  s.all fun range => range.2 < 0x80

/-- The one character of a set, if there is just one in it. -/
def only? : CharSet → Option Char
  | [(first, last)] => if first = last then some (Char.ofNat first) else none
  | _ => none

/-- An ordered set in which members are searched for by halving. -/
structure Table where
  ranges : Array (Nat × Nat)

def table (s : CharSet) : Table :=
  ⟨s.toArray⟩

namespace Table

/-- Searches the ranges from place `low` on and before place `high`. -/
def containsWithin (table : Table) (code low high : Nat) : Bool :=
  if low < high then
    let middle := (low + high) / 2
    match table.ranges[middle]? with
    | none => false
    | some range =>
        if code < range.1 then containsWithin table code low middle
        else if range.2 < code then containsWithin table code (middle + 1) high
        else true
  else false
termination_by high - low

def containsCode (table : Table) (code : Nat) : Bool :=
  table.containsWithin code 0 table.ranges.size

def contains (table : Table) (c : Char) : Bool :=
  table.containsCode c.toNat

end Table

example : ofText "41-5a  b5" = [(0x41, 0x5a), (0xb5, 0xb5)] := by decide
example : ofText "100-104/2" =
    [(0x100, 0x100), (0x102, 0x102), (0x104, 0x104)] := by decide

end CharSet
end JsonSelect
