/-
The modes of patterns, which say how letters, dots and line ends are meant.
-/
import JsonSelect.Regex.Basic
import JsonSelect.Text.CaseFold

namespace JsonSelect.Regex

/-- How the parts of a pattern are meant. -/
structure Mode where
  ignoreCase : Bool := false
  multiLine : Bool := false
  dotAll : Bool := false
  /-- A carriage return ends a line too. -/
  crlf : Bool := false
  /-- Classes and case variants are those of ASCII. -/
  ascii : Bool := false
  /-- Blanks between the parts do not count, and comments may follow a number sign. -/
  extended : Bool := false

namespace Mode

/-- Sets what a flag's letter stands for.  Which repetition is tried first is a flag as
well, but makes no difference to whether there is a match. -/
def set (mode : Mode) (value : Bool) : Char → Option Mode
  | 'i' => some { mode with ignoreCase := value }
  | 'm' => some { mode with multiLine := value }
  | 's' => some { mode with dotAll := value }
  | 'R' => some { mode with crlf := value }
  | 'u' => some { mode with ascii := !value }
  | 'x' => some { mode with extended := value }
  | 'U' => some mode
  | _ => none

/-- The set with the case variants of its characters, where case does not count. -/
def fold (mode : Mode) (s : CharSet) : CharSet :=
  if mode.ignoreCase then if mode.ascii then s.asciiFolded else s.folded else s

/-- The set or its complement.  Where classes are those of ASCII there is no complement,
since it would hold characters beyond ASCII. -/
def negate? (mode : Mode) (negated : Bool) (s : CharSet) : Option CharSet :=
  if negated then if mode.ascii then none else some s.compl else some s

def digit (mode : Mode) : CharSet :=
  if mode.ascii then .between '0' '9' else Category.decimalNumber

def blank (mode : Mode) : CharSet :=
  if mode.ascii then Property.whiteSpace.inter .ascii else Property.whiteSpace

def word (mode : Mode) : CharSet :=
  if mode.ascii then .asciiWord else .word

/-- What a dot stands for. -/
def dot? (mode : Mode) : Option CharSet :=
  if mode.ascii then none
  else if mode.dotAll then some .full
  else if mode.crlf then some (CharSet.compl [(10, 10), (13, 13)])
  else some (CharSet.single '\n').compl

def start (mode : Mode) : Edge :=
  if mode.multiLine then if mode.crlf then .crlfStart else .lineStart else .textStart

def finish (mode : Mode) : Edge :=
  if mode.multiLine then if mode.crlf then .crlfEnd else .lineEnd else .textEnd

end Mode

/-! Blanks and comments, which may stand between the parts of a pattern in
extended mode. -/

def isBlank (c : Char) : Bool :=
  Property.whiteSpace.contains c

/-- Leaves blanks and comments out; `comment` says whether one has begun. -/
def skipComments (comment : Bool) : List Char → List Char
  | [] => []
  | c :: text =>
      if comment then skipComments (c ≠ '\n') text
      else if c = '#' then skipComments true text
      else if isBlank c then skipComments false text
      else c :: text

/-- What comes after blanks and comments, if the mode allows them. -/
def Mode.skip (mode : Mode) (text : List Char) : List Char :=
  if mode.extended then skipComments false text else text

/-- The text before a character and the text after it.  Blanks and comments are left
out, if the mode allows them; `comment` says whether one has begun. -/
def Mode.readUntil (mode : Mode) (stop : Char) (comment : Bool) :
    List Char → Option (List Char × List Char)
  | [] => none
  | c :: text =>
      if comment then mode.readUntil stop (c ≠ '\n') text
      else if mode.extended ∧ c = '#' then mode.readUntil stop true text
      else if mode.extended ∧ isBlank c then mode.readUntil stop false text
      else if c = stop then some ([], text)
      else (mode.readUntil stop false text).map fun (before, text) => (c :: before, text)

/-- The next character after blanks.  In a comment it is the first that is no blank. -/
def Mode.peek (mode : Mode) (text : List Char) : Option Char :=
  if mode.extended then
    match text.dropWhile isBlank with
    | '#' :: comment => (comment.dropWhile isBlank).head?
    | text => text.head?
  else text.head?

end JsonSelect.Regex
