/-
Characters of words: besides letters and digits in the widest sense also marks,
joiners and connectors such as the low line.
-/
import JsonSelect.Text.Property

namespace JsonSelect

namespace CharSet

def word : CharSet :=
  unionAll [Property.alphabetic, Category.mark, Category.decimalNumber,
    Category.connectorPunctuation, Property.joinControl]

def asciiWord : CharSet := ofText "30-39 41-5a 5f 61-7a"

end CharSet

def wordTable : CharSet.Table := CharSet.word.table

/-- Whether a character belongs to a word; for ASCII without the table. -/
def isWordChar (c : Char) : Bool :=
  if c.toNat < 128 then CharSet.asciiWord.contains c else wordTable.contains c

end JsonSelect
