/-
Reading patterns.  A pattern is read branch by branch; a group is read like a
pattern of its own, up to its closing parenthesis.  The mode may change from
place to place.  There is no looking around and no reference to an earlier group.
-/
import JsonSelect.Regex.Class
import JsonSelect.Regex.Machine
import JsonSelect.Regex.Weight
import JsonSelect.Text.Alphanumeric

namespace JsonSelect

namespace Regex

/-- Decimal digits. -/
def readDigits (mode : Mode) : Nat → List Char → List Nat × List Char
  | 0, text => ([], text)
  | bound + 1, text =>
      match text with
      | [] => ([], [])
      | c :: rest =>
          match Numeral.decimal? c with
          | none => ([], c :: rest)
          | some digit =>
              let (digits, rest) := readDigits mode bound (mode.skip rest)
              (digit :: digits, rest)

/-- A count with blanks around it.  It fits 32 bits. -/
def readCount (mode : Mode) (text : List Char) : Option (Nat × List Char) :=
  let text := text.dropWhile isBlank
  let (digits, text) := readDigits mode text.length text
  let count := Numeral.ofDigits 10 digits
  if ¬digits.isEmpty ∧ count < UInt32.size then some (count, text.dropWhile isBlank)
    else none

/-- The bounds of a repetition after the opening brace. -/
def readBounds (mode : Mode) (text : List Char) :
    Option ((Nat × Option Nat) × List Char) := do
  let (least, text) ← readCount mode (mode.skip text)
  let (most, text) ←
    match text with
    | ',' :: text =>
        match mode.skip text with
        | '\x7d' :: text => some (none, '\x7d' :: text)
        | text => (readCount mode text).map fun (most, text) => (some most, text)
    | text => some (some least, text)
  match text with
  | '\x7d' :: text =>
      if most.all (least ≤ ·) then some ((least, most), mode.skip text) else none
  | _ => none

/-- A repetition may say that it takes as little as it can, which changes no
match's existence. -/
def skipLazy : List Char → List Char
  | '?' :: text => text
  | text => text

/-- The flags before the closing parenthesis or the colon of a group, and whether
there are none.  Each stands once; those after a hyphen are taken back, and there is
at least one of them. -/
def readFlags (mode : Mode) (seen : List Char) : List Char →
    Option (Mode × Bool × List Char)
  | [] => none
  | c :: text =>
      if c = ')' ∨ c = ':' then
        if seen.head? = some '-' then none else some (mode, seen.isEmpty, c :: text)
      else if c ∈ seen then none
      else if c = '-' then readFlags mode (c :: seen) text
      else do readFlags (← mode.set ('-' ∉ seen) c) (c :: seen) text

def isNameStart (c : Char) : Bool :=
  c = '_' || isAlphabetic c

def isNamePart (c : Char) : Bool :=
  c = '_' || c = '.' || c = '[' || c = ']' || isAlphanumeric c

/-- A group's name up to the angle that closes it. -/
def readName (text : List Char) : Option (List Char × List Char) :=
  match text.span (· ≠ '>') with
  | (first :: others, _ :: text) =>
      if isNameStart first ∧ others.all isNamePart then some (first :: others, text)
        else none
  | _ => none

/-- What an opening parenthesis begins. -/
inductive Opening where
  /-- The mode changes for the rest of the group around it. -/
  | setting (mode : Mode)
  | unremembered (mode : Mode)
  | remembered (name : Option (List Char))

/-- What comes after an opening parenthesis and before the inside of a group. -/
def readOpening (mode : Mode) (text : List Char) : Option (Opening × List Char) :=
  match mode.skip text with
  | '?' :: 'P' :: '<' :: text =>
      (readName text).map fun (name, text) => (.remembered (some name), text)
  | '?' :: '<' :: text =>
      (readName text).map fun (name, text) => (.remembered (some name), text)
  | '?' :: text =>
      match readFlags mode [] text with
      | some (inner, _, ':' :: text) => some (.unremembered inner, text)
      | some (inner, false, ')' :: text) => some (.setting inner, text)
      | _ => none
  | text => some (.remembered none, text)

/-- A part of a pattern, and how deep groups, repetitions, branches, rows of parts and
classes nest in it.  A change of the mode is a part with nothing in it. -/
structure Part where
  regex : Option Regex
  depth : Nat

/-- What is read of a group: its branches so far and the parts of the last of them,
all last first. -/
structure Row where
  branches : List (Regex × Nat) := []
  parts : List Part := []

namespace Row

def add (row : Row) (part : Part) : Row :=
  { row with parts := part :: row.parts }

def deepest (depths : List Nat) : Nat :=
  depthOfParts depths.length (depths.foldl max 0)

/-- The parts of the last branch in a row. -/
def lastBranch (row : Row) : Regex × Nat :=
  (sequence (row.parts.reverse.filterMap Part.regex), deepest (row.parts.map Part.depth))

def branch (row : Row) : Row :=
  ⟨row.lastBranch :: row.branches, []⟩

/-- The branches as one part. -/
def close (row : Row) : Regex × Nat :=
  match row.branches with
  | [] => row.lastBranch
  | branches =>
      let branches := (row.lastBranch :: branches).reverse
      (choice (branches.map (·.1)), deepest (branches.map (·.2)))

/-- Puts a repetition around the last part.  There must be one, and something in it. -/
def repeatLast? (row : Row) (least : Nat) (most : Option Nat) : Option Row :=
  match row.parts with
  | ⟨some r, depth⟩ :: parts =>
      some { row with parts := ⟨some (r.repeated least most), depth + 1⟩ :: parts }
  | _ => none

end Row

/-- A group that was read, and the names of the groups in it. -/
structure Group where
  regex : Regex
  depth : Nat
  names : List (List Char)

/-- How deep the parts of a pattern nest at most. -/
def maxDepth : Nat := 250

/-- A group from some place on, where `row` is what came before in it.  `group` reads
what is in parentheses. -/
def readRow (group : Mode → List Char → Option (Group × List Char)) :
    Nat → Mode → Row → List (List Char) → List Char → Option (Group × List Char)
  | 0, _, _, _, _ => none
  | bound + 1, mode, row, names, text =>
      let close (text : List Char) : Option (Group × List Char) :=
        let (regex, depth) := row.close
        some (⟨regex, depth, names⟩, text)
      let repeated (least : Nat) (most : Option Nat) (text : List Char) := do
        readRow group bound mode (← row.repeatLast? least most) names (skipLazy text)
      let add (regex : Regex) (depth : Nat) (text : List Char) :=
        readRow group bound mode (row.add ⟨some regex, depth⟩) names text
      match mode.skip text with
      | [] => close []
      | ')' :: text => close (')' :: text)
      | '|' :: text => readRow group bound mode row.branch names text
      | '(' :: text => do
          match ← readOpening mode text with
          | (.setting mode, text) =>
              readRow group bound mode (row.add ⟨none, 0⟩) names text
          | (.unremembered inner, text) =>
              match ← group inner text with
              | (inner, ')' :: text) =>
                  readRow group bound mode (row.add ⟨some inner.regex, inner.depth + 1⟩)
                    (inner.names ++ names) text
              | _ => none
          | (.remembered name, text) =>
              match ← group mode text with
              | (inner, ')' :: text) =>
                  readRow group bound mode
                    (row.add ⟨some (.group inner.regex), inner.depth + 1⟩)
                    (name.toList ++ inner.names ++ names) text
              | _ => none
      | '*' :: text => repeated 0 none text
      | '+' :: text => repeated 1 none text
      | '?' :: text => repeated 0 (some 1) text
      | '\x7b' :: text => do
          let ((least, most), text) ← readBounds mode text
          repeated least most text
      | '[' :: text => do
          let (inner, text) ← readNestedClass mode maxDepth text
          add (.one inner.set) inner.depth text
      | '.' :: text => do add (.one (← mode.dot?)) 0 text
      | '^' :: text => add (.edge mode.start) 0 text
      | '$' :: text => add (.edge mode.finish) 0 text
      | '\\' :: text => do
          let (atom, text) ← readEscape mode text
          add (← atom.regex? mode) 0 text
      | c :: text => do add (← (Atom.character c false).regex? mode) 0 text

/-- A group whose groups nest no deeper than the given number. -/
def readGroup : Nat → Mode → List Char → Option (Group × List Char)
  | 0, mode, text => readRow (fun _ _ => none) (text.length + 1) mode {} [] text
  | depth + 1, mode, text => readRow (readGroup depth) (text.length + 1) mode {} [] text

/-- The regular expression of a pattern, if it is one. -/
def ofPattern? (mode : Mode) (pattern : String) : Option Regex :=
  match readGroup maxDepth mode pattern.toList with
  | some (⟨regex, depth, names⟩, []) =>
      if names.Nodup ∧ depth ≤ maxDepth ∧ regex.isLight then some regex else none
  | _ => none

end Regex

/-- The machine of a pattern, if the pattern is a regular expression. -/
def Machine.ofPattern? (mode : Regex.Mode) (pattern : String) : Option Machine :=
  (Regex.ofPattern? mode pattern).map Machine.ofRegex

end JsonSelect
