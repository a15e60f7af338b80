/-
Reading escapes and bracketed classes of patterns.
-/
import JsonSelect.Regex.Mode
import JsonSelect.Regex.Named

namespace JsonSelect.Regex

/-- The smallest parts of a pattern. -/
inductive Atom where
  /-- A character, and whether it is written as a byte by two digits. -/
  | character (c : Char) (byte : Bool)
  | set (s : CharSet)
  | edge (e : Edge)

namespace Atom

/-- What matches the atom by itself.  A byte must be ASCII where classes are; there a
character beyond ASCII has no case variants. -/
def regex? (mode : Mode) : Atom → Option Regex
  | .character c byte =>
      if mode.ascii ∧ 0x80 ≤ c.toNat then if byte then none else some (.one (.single c))
      else some (.one (mode.fold (.single c)))
  | .set s => some (.one s)
  | .edge e => some (.edge e)

/-- The atom as one end of a range in a class, which is a character, and one of ASCII
where classes are. -/
def char? (mode : Mode) : Atom → Option Char
  | .character c _ => if mode.ascii ∧ 0x80 ≤ c.toNat then none else some c
  | _ => none

/-- The atom as a member of a class. -/
def set? (mode : Mode) : Atom → Option CharSet
  | .set s => some s
  | atom => (atom.char? mode).map .single

end Atom

/-- The character of some hexadecimal digits, if they name one. -/
def charOfHex? (digits : List Nat) : Option Char :=
  let code := Numeral.ofDigits 16 digits
  if ¬digits.isEmpty ∧ code.isValidChar then some (Char.ofNat code) else none

/-- The given number of hexadecimal digits. -/
def readHexDigits (mode : Mode) : Nat → List Char → Option (List Nat × List Char)
  | 0, text => some ([], text)
  | count + 1, text =>
      match mode.skip text with
      | [] => none
      | c :: text => do
          let digit ← Numeral.hexadecimal? c
          let (digits, text) ← readHexDigits mode count text
          some (digit :: digits, text)

/-- A hexadecimal escape from its digits on: as many as given, or any number in braces. -/
def readHexadecimal (mode : Mode) (count : Nat) (text : List Char) :
    Option (Atom × List Char) := do
  match mode.skip text with
  | '\x7b' :: text =>
      let (digits, text) ← mode.readUntil '\x7d' false text
      let c ← charOfHex? (← digits.mapM Numeral.hexadecimal?)
      some (.character c false, text)
  | text =>
      let (digits, text) ← readHexDigits mode count text
      let c ← charOfHex? digits
      some (.character c (count = 2), text)

/-- The parts of a name on either side of a separator, and whether it says
that they differ. -/
def splitName (name : List Char) : Option (List Char × Bool × List Char) :=
  match splitAtDiffers name with
  | some (property, value) => some (property, true, value)
  | none =>
      let separator := if ':' ∈ name then ':' else '='
      match name.span (· ≠ separator) with
      | (property, _ :: value) => some (property, false, value)
      | (_, []) => none
where
  splitAtDiffers : List Char → Option (List Char × List Char)
    | [] => none
    | '!' :: '=' :: value => some ([], value)
    | c :: text =>
        (splitAtDiffers text).map fun (property, value) => (c :: property, value)

/-- A set called by name, from its name on: one letter, or anything in braces. -/
def readNamed (mode : Mode) (negated : Bool) (text : List Char) :
    Option (Atom × List Char) := do
  let (name, text) ←
    match mode.skip text with
    | [] => none
    | '\\' :: _ => none
    | '\x7b' :: text => mode.readUntil '\x7d' false text
    | c :: text => some ([c], text)
  let (s, differs) ←
    match splitName name with
    | some (property, differs, value) =>
        (CharSet.namedBy? property value).map (·, differs)
    | none => (CharSet.named? name).map (·, false)
  if mode.ascii then none
  else
    let s ← mode.negate? (negated != differs) (mode.fold s)
    some (.set s, text)

/-- Whether a character may be escaped to stand for itself. -/
def isEscapable (c : Char) : Bool :=
  c.toNat < 128 && !c.isAlphanum && c ≠ '<' && c ≠ '>'

/-- What follows the escape of a word boundary: braces may say which kind of boundary is
meant, unless they hold a count. -/
def readBoundary (mode : Mode) (text : List Char) : Option (Atom × List Char) :=
  match text with
  | '\x7b' :: inner =>
      match mode.skip inner with
      | [] => none
      | c :: _ =>
          if c.isAlpha ∨ c = '-' then do
            let (name, text) ← mode.readUntil '\x7d' false inner
            match String.ofList name with
            | "start" => some (.edge (.wordStart mode.ascii), text)
            | "end" => some (.edge (.wordEnd mode.ascii), text)
            | "start-half" => some (.edge (.wordStartHalf mode.ascii), text)
            | "end-half" => some (.edge (.wordEndHalf mode.ascii), text)
            | _ => none
          else some (.edge (.wordBoundary mode.ascii), text)
  | _ => some (.edge (.wordBoundary mode.ascii), text)

/-- An escape from the character after the backslash on. -/
def readEscape (mode : Mode) : List Char → Option (Atom × List Char)
  | [] => none
  | 'd' :: text => some (.set mode.digit, text)
  | 's' :: text => some (.set mode.blank, text)
  | 'w' :: text => some (.set mode.word, text)
  | 'D' :: text => (mode.negate? true mode.digit).map (.set ·, text)
  | 'S' :: text => (mode.negate? true mode.blank).map (.set ·, text)
  | 'W' :: text => (mode.negate? true mode.word).map (.set ·, text)
  | 'p' :: text => readNamed mode false text
  | 'P' :: text => readNamed mode true text
  | 'x' :: text => readHexadecimal mode 2 text
  | 'u' :: text => readHexadecimal mode 4 text
  | 'U' :: text => readHexadecimal mode 8 text
  | 'a' :: text => some (.character '\x07' false, text)
  | 'f' :: text => some (.character '\x0c' false, text)
  | 't' :: text => some (.character '\t' false, text)
  | 'n' :: text => some (.character '\n' false, text)
  | 'r' :: text => some (.character '\r' false, text)
  | 'v' :: text => some (.character '\x0b' false, text)
  | 'A' :: text => some (.edge .textStart, text)
  | 'z' :: text => some (.edge .textEnd, text)
  | 'b' :: text => readBoundary mode text
  | 'B' :: text => some (.edge (.notWordBoundary mode.ascii), text)
  | '<' :: text => some (.edge (.wordStart mode.ascii), text)
  | '>' :: text => some (.edge (.wordEnd mode.ascii), text)
  | c :: text => if isEscapable c then some (.character c false, text) else none

/-- What joins two parts of a bracketed class. -/
inductive Joint where
  | both
  | minus
  | differ

def Joint.join : Joint → CharSet → CharSet → CharSet
  | .both => .inter
  | .minus => .minus
  | .differ => .differ

/-- How deep something is that consists of parts: a single part adds nothing. -/
def depthOfParts (count deepest : Nat) : Nat :=
  if count ≤ 1 then deepest else deepest + 1

/-- The members of a class since its last joint. -/
structure Members where
  set : CharSet := []
  count : Nat := 0
  deepest : Nat := 0

namespace Members

def add (members : Members) (s : CharSet) (depth : Nat) : Members :=
  ⟨members.set.union s, members.count + 1, max members.deepest depth⟩

def depth (members : Members) : Nat :=
  depthOfParts members.count members.deepest

end Members

/-- A class or a part of it, and how deep classes, joints and rows of
members nest in it. -/
structure Nested where
  set : CharSet
  depth : Nat

/-- What stands left of the last joint, if there is one, joined with the members since. -/
def joinMembers (mode : Mode) (left : Option (Joint × Nested)) (members : Members) :
    Nested :=
  match left with
  | none => ⟨members.set, members.depth⟩
  | some (joint, left) =>
      ⟨joint.join (mode.fold left.set) (mode.fold members.set),
        max left.depth members.depth + 1⟩

/-- An ASCII class from the colon on, as in `[:alpha:]`. -/
def readAscii (text : List Char) : Option ((Bool × CharSet) × List Char) :=
  match text with
  | ':' :: text =>
      let (negated, text) := match text with
        | '^' :: text => (true, text)
        | text => (false, text)
      match text.span (· ≠ ':') with
      | (name, ':' :: ']' :: text) =>
          (CharSet.ascii? name).map fun s => ((negated, s), text)
      | _ => none
  | _ => none

/-- A character or an escape inside a bracketed class. -/
def readMember (mode : Mode) : List Char → Option (Atom × List Char)
  | [] => none
  | '\\' :: text => readEscape mode text
  | c :: text => some (.character c false, text)

/-- A member of a bracketed class, or a range between two characters.  A hyphen before the
closing bracket or before another hyphen makes no range. -/
def readSpan (mode : Mode) (text : List Char) : Option (CharSet × List Char) := do
  let (first, text) ← readMember mode text
  match mode.skip text with
  | [] => none
  | '-' :: after =>
      if mode.peek after = some ']' ∨ mode.peek after = some '-' then
        some (← first.set? mode, '-' :: after)
      else
        let (last, text) ← readMember mode (mode.skip after)
        let first ← first.char? mode
        let last ← last.char? mode
        if first ≤ last then some (.between first last, text) else none
  | text => some (← first.set? mode, text)

/-- The rest of a bracketed class up to its closing bracket.  `nested` reads a
class inside it. -/
def readMembers (nested : List Char → Option (Nested × List Char)) (mode : Mode) :
    Nat → Option (Joint × Nested) → Members → List Char → Option (Nested × List Char)
  | 0, _, _, _ => none
  | bound + 1, left, members, text =>
      let join (joint : Joint) (text : List Char) :=
        readMembers nested mode bound
          (some (joint, joinMembers mode left members)) {} text
      match mode.skip text with
      | [] => none
      | ']' :: text => some (joinMembers mode left members, text)
      | '&' :: '&' :: text => join .both text
      | '-' :: '-' :: text => join .minus text
      | '~' :: '~' :: text => join .differ text
      | '[' :: text =>
          match readAscii text with
          | some ((negated, s), text) => do
              let s ← mode.negate? negated (mode.fold s)
              readMembers nested mode bound left (members.add s 0) text
          | none => do
              let (inner, text) ← nested text
              readMembers nested mode bound left (members.add inner.set inner.depth) text
      | text => do
          let (s, text) ← readSpan mode text
          readMembers nested mode bound left (members.add s 0) text

/-- Hyphens that stand for themselves, as many as there are. -/
def readHyphens (mode : Mode) : Nat → Members → List Char → Members × List Char
  | 0, members, text => (members, text)
  | bound + 1, members, text =>
      match mode.skip text with
      | '-' :: text => readHyphens mode bound (members.add (.single '-') 0) text
      | text => (members, text)

/-- A bracketed class after its opening bracket.  Hyphens and a closing bracket at its
very start stand for themselves. -/
def readClass (nested : List Char → Option (Nested × List Char)) (mode : Mode)
    (text : List Char) : Option (Nested × List Char) := do
  let (negated, text) := match mode.skip text with
    | '^' :: text => (true, text)
    | text => (false, text)
  let (members, text) := readHyphens mode text.length {} text
  let (members, text) :=
    match mode.skip text with
    | ']' :: after =>
        if members.count = 0 then (members.add (.single ']') 0, after)
          else (members, text)
    | _ => (members, text)
  let (inner, text) ← readMembers nested mode (text.length + 1) none members text
  let s ← mode.negate? negated (mode.fold inner.set)
  some (⟨s, inner.depth + 1⟩, text)

/-- A bracketed class whose classes nest no deeper than the given number. -/
def readNestedClass (mode : Mode) : Nat → List Char → Option (Nested × List Char)
  | 0, _ => none
  | depth + 1, text => readClass (readNestedClass mode depth) mode text

end JsonSelect.Regex
