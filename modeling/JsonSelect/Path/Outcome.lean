/-
What a reader makes of the text in front of it.  A text of another kind is a
miss: nothing is taken, and another reader may try.  A text that must be of the
kind, but is flawed, is a failure, and nobody tries again.  A failure is told at
the place where the reader nearest to it says what it expected.
-/

namespace JsonSelect.Path

/-- Why a text is no path. -/
inductive Cause where
  | missingRoot
  | missingStepAfterDescent
  | missingStepAfterDot
  | invalidBracket
  | unclosedBracket
  | invalidFilter
  | invalidSliceStep
  | missingAlternative
  | missingConjunct
  | missingNegated
  | unclosedParenthesis
  | missingRegex
  | missingOperand
  | unterminatedRegex
  | invalidRegex
  | unterminatedString
  | invalidEscape
  | invalidUnicodeEscape
  | trailingCharacters
deriving DecidableEq

def Cause.message : Cause → String
  | missingRoot => "path must start with '$'"
  | missingStepAfterDescent => "expected a key, '*' or '[' after '..'"
  | missingStepAfterDot => "expected a key, '*' or '[' after '.'"
  | invalidBracket => "invalid bracket selector"
  | unclosedBracket => "expected ']'"
  | invalidFilter => "invalid filter expression"
  | invalidSliceStep => "slice step must be a positive integer"
  | missingAlternative => "expected an expression after '||'"
  | missingConjunct => "expected an expression after '&&'"
  | missingNegated => "expected an expression after '!'"
  | unclosedParenthesis => "expected ')'"
  | missingRegex => "expected a regular expression after '=~'"
  | missingOperand => "expected an operand after comparison operator"
  | unterminatedRegex => "unterminated regular expression"
  | invalidRegex => "invalid regular expression"
  | unterminatedString => "unterminated string"
  | invalidEscape => "invalid escape sequence"
  | invalidUnicodeEscape => "invalid unicode escape"
  | trailingCharacters => "unexpected trailing characters"

/-- A cause, and the text from the place on that it is told of. -/
structure Fault where
  cause : Cause
  rest : List Char
deriving DecidableEq

inductive Outcome (α : Type) where
  | ok (value : α) (rest : List Char)
  | miss
  | fail (fault : Option Fault)

/-- Readers take a value off the front of a text. -/
abbrev Reader (α : Type) := List Char → Outcome α

namespace Outcome

variable {α β : Type}

/-- Goes on with the value and the text after it. -/
def bind : Outcome α → (α → Reader β) → Outcome β
  | .ok value rest, next => next value rest
  | .miss, _ => .miss
  | .fail fault, _ => .fail fault

def map (f : α → β) : Outcome α → Outcome β
  | .ok value rest => .ok (f value) rest
  | .miss => .miss
  | .fail fault => .fail fault

/-- The second outcome if the first is a miss. -/
def orElse : Outcome α → (Unit → Outcome α) → Outcome α
  | .ok value rest, _ => .ok value rest
  | .miss, other => other ()
  | .fail fault, _ => .fail fault

instance : OrElse (Outcome α) := ⟨orElse⟩

/-- From here on nothing else can be meant, so a miss is a failure. -/
def commit : Outcome α → Outcome α
  | .miss => .fail none
  | outcome => outcome

/-- Says what a miss, or a failure of which nothing was said, means at the given text. -/
def expect (cause : Cause) (text : List Char) : Outcome α → Outcome α
  | .ok value rest => .ok value rest
  | .miss => .fail (some ⟨cause, text⟩)
  | .fail fault => .fail (fault.or (some ⟨cause, text⟩))

end Outcome

namespace Reader

variable {α : Type}

/-- A value, if there is one; otherwise nothing is taken. -/
def optional (reader : Reader α) : Reader (Option α) := fun text =>
  match reader text with
  | .ok value rest => .ok (some value) rest
  | .miss => .ok none text
  | .fail fault => .fail fault

/-- As many values as there are, up to a bound. -/
def many (reader : Reader α) : Nat → Reader (List α)
  | 0, text => .ok [] text
  | bound + 1, text =>
      match reader text with
      | .ok value rest => (many reader bound rest).map (value :: ·)
      | .miss => .ok [] text
      | .fail fault => .fail fault

/-- Takes one character. -/
def char (c : Char) : Reader Unit
  | d :: rest => if d = c then .ok () rest else .miss
  | [] => .miss

/-- Takes the given characters. -/
def word : List Char → Reader Unit
  | [], text => .ok () text
  | c :: cs, text => (char c text).bind fun _ rest => word cs rest

/-- A value with what the reader says of its absence. -/
def expect (cause : Cause) (reader : Reader α) : Reader α := fun text =>
  (reader text).expect cause text

end Reader
end JsonSelect.Path
