/-
Sets of characters that patterns call by name: by a property, a general category
or a script, or by a value of a property that has several, such as the age.  In
these names neither case nor blanks, hyphens and low lines count.  The names of
the classes of ASCII are exact.
-/
import JsonSelect.Text.Age
import JsonSelect.Text.Script
import JsonSelect.Text.Segment
import JsonSelect.Text.Word

namespace JsonSelect.CharSet

/-- The letters of a name in lower case, without what does not count and without a
leading `is`; but `isc` stays as it is. -/
def normalizeName (name : List Char) : List Char :=
  let lower := name.map Char.toLower
  let kept :=
    (if ['i', 's'].isPrefixOf lower then lower.drop 2 else lower).filter fun c =>
    c ≠ ' ' ∧ c ≠ '_' ∧ c ≠ '-' ∧ c.toNat < 128
  if ['i', 's'].isPrefixOf lower ∧ kept = ['c'] then ['i', 's', 'c'] else kept

/-- The set under the first entry that has the name. -/
def lookup (table : List (List String × CharSet)) (name : String) : Option CharSet :=
  (table.find? fun entry => name ∈ entry.1).map (·.2)

def script? (name : String) : Option Script :=
  Script.all.find? fun script => name ∈ script.names

/-- The characters of a version, which is named as it is or without its point:
`3.0` or `v30`. -/
def age? (name : String) : Option CharSet :=
  (Age.all.find? fun age =>
    name = age.version ∨
      name.toList = 'v' :: age.version.toList.filter (· ≠ '.')).map Age.upTo

/-- The set of a single name: of a property, a category or a script. -/
def named? (name : List Char) : Option CharSet :=
  let name := String.ofList (normalizeName name)
  (lookup Property.names name).or (lookup Category.names name) |>.or
    ((script? name).map Script.own)

/-- The set of a value that a property has. -/
def namedBy? (property value : List Char) : Option CharSet :=
  let value := String.ofList (normalizeName value)
  match String.ofList (normalizeName property) with
  | "gc" | "generalcategory" => lookup Category.names value
  | "sc" | "script" => (script? value).map Script.own
  | "scx" | "scriptextensions" => (script? value).map Script.used
  | "age" => age? value
  | "gcb" | "graphemeclusterbreak" => lookup GraphemeBreak.names value
  | "wb" | "wordbreak" => lookup WordBreak.names value
  | "sb" | "sentencebreak" => lookup SentenceBreak.names value
  | _ => none

/-- The classes of ASCII that brackets may hold. -/
def asciiNames : List (List String × CharSet) := [
  (["alnum"], ofText "30-39 41-5a 61-7a"),
  (["alpha"], ofText "41-5a 61-7a"),
  (["ascii"], ascii),
  (["blank"], ofText "9 20"),
  (["cntrl"], ofText "0-1f 7f"),
  (["digit"], between '0' '9'),
  (["graph"], ofText "21-7e"),
  (["lower"], between 'a' 'z'),
  (["print"], ofText "20-7e"),
  (["punct"], ofText "21-2f 3a-40 5b-60 7b-7e"),
  (["space"], ofText "9-d 20"),
  (["upper"], between 'A' 'Z'),
  (["word"], asciiWord),
  (["xdigit"], ofText "30-39 41-46 61-66")]

def ascii? (name : List Char) : Option CharSet :=
  lookup asciiNames (String.ofList name)

end JsonSelect.CharSet
