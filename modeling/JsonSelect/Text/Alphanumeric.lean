/-
Letters and numbers by Unicode 17, which has more of them than the version that
the other tables are of, and lacks none of theirs.
-/
import JsonSelect.Text.Property

namespace JsonSelect

/-- The letters that are new. -/
def newAlphabetic : CharSet := .ofText
  "88f c5c cdc a7ce-a7cf a7d2 a7d4 a7f1 10940-10959 10ec5-10ec7 10efa-10efb 11b60-11b67
   11db0-11ddb 16ea0-16eb8 16ebb-16ed3 16ff2-16ff6 187f8-187ff 18d09-18d1e 18d80-18df2
   1e6c0-1e6de 1e6e0-1e6f5 1e6fe-1e6ff 2b73a-2b73f 2cea2-2cead 323b0-33479"

/-- The numbers that are new. -/
def newNumber : CharSet := .ofText
  "11de0-11de9 16ff4-16ff6"

/-- Letters in the widest sense. -/
def alphabetic : CharSet :=
  .union Property.alphabetic newAlphabetic

/-- Letters in the widest sense and numbers of every kind. -/
def alphanumeric : CharSet :=
  .unionAll [alphabetic, Category.number, newNumber]

/-- The answer for ASCII is given without the table. -/
def isAlphabetic (c : Char) : Bool :=
  if c.toNat < 128 then c.isAlpha else alphabetic.contains c

/-- The answer for ASCII is given without the table. -/
def isAlphanumeric (c : Char) : Bool :=
  if c.toNat < 128 then c.isAlphanum else alphanumeric.contains c

end JsonSelect
