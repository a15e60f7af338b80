/-
Blanks: the four characters that may stand between the parts of a text.
-/

namespace JsonSelect

def isBlank (c : Char) : Bool :=
  c = ' ' || c = '\t' || c = '\n' || c = '\r'

def skipBlanks (text : List Char) : List Char :=
  text.dropWhile isBlank

theorem skipBlanks_cons_of_not_isBlank {c : Char} (h : isBlank c = false)
    (text : List Char) :
    skipBlanks (c :: text) = c :: text := by
  simp [skipBlanks, h]

theorem skipBlanks_skipBlanks (text : List Char) :
    skipBlanks (skipBlanks text) = skipBlanks text := by
  induction text with
  | nil => rfl
  | cons c text ih =>
    by_cases h : isBlank c
    · simpa [skipBlanks, h] using ih
    · simp [skipBlanks, h]

end JsonSelect
