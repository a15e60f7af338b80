/-
Quoted text: member names and strings as paths write them.  They are written
between single quotes; between double quotes they are read as well.
-/
import JsonSelect.Path.Outcome
import JsonSelect.Text.Numeral

namespace JsonSelect.Path.Quoted

def isControl (c : Char) : Bool :=
  c < ' ' || 0x7f ≤ c.toNat && c.toNat ≤ 0x9f

/-- How a character stands between the quotes. -/
def escape (c : Char) : List Char :=
  if c = '\x27' then ['\\', '\x27']
  else if c = '\\' then ['\\', '\\']
  else if c = '\n' then ['\\', 'n']
  else if c = '\r' then ['\\', 'r']
  else if c = '\t' then ['\\', 't']
  else if isControl c then '\\' :: 'u' :: Numeral.hex4 c.toNat
  else [c]

def write (s : String) (after : List Char) : List Char :=
  '\x27' :: s.toList.flatMap escape ++ '\x27' :: after

/-- What a single character stands for after a backslash. -/
def unescape? (c : Char) : Option Char :=
  if c = '\\' ∨ c = '/' ∨ c = '\x27' ∨ c = '"' then some c
  else if c = 'b' then some '\x08'
  else if c = 'f' then some '\x0c'
  else if c = 'n' then some '\n'
  else if c = 'r' then some '\r'
  else if c = 't' then some '\t'
  else none

/-- The characters up to the closing quote.  A text that ends before it is flawed where
the quoted text begins, which is `whole`; a flawed escape is so from its backslash on. -/
def readChars (quote : Char) (whole : List Char) : Reader (List Char)
  | [] => .fail (some ⟨.unterminatedString, whole⟩)
  | c :: text =>
      if c = quote then .ok [] text
      else if c = '\\' then
        match text with
        | [] => .fail (some ⟨.unterminatedString, whole⟩)
        | 'u' :: h₁ :: h₂ :: h₃ :: h₄ :: text' =>
            match Numeral.charOfHex4? h₁ h₂ h₃ h₄ with
            | some d => (readChars quote whole text').map (d :: ·)
            | none => .fail (some ⟨.invalidUnicodeEscape, c :: text⟩)
        | e :: text' =>
            if e = 'u' then .fail (some ⟨.invalidUnicodeEscape, c :: text⟩)
            else
              match unescape? e with
              | some d => (readChars quote whole text').map (d :: ·)
              | none => .fail (some ⟨.invalidEscape, c :: text⟩)
      else (readChars quote whole text).map (c :: ·)

/-- A quoted text with its quotes. -/
def read : Reader String
  | [] => .miss
  | quote :: text =>
      if quote = '\x27' ∨ quote = '"' then
        (readChars quote (quote :: text) text).map String.ofList
      else .miss

end JsonSelect.Path.Quoted
