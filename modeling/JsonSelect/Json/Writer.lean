/-
JSON text, compact: no blanks, members in the object's own order.  Each writer
puts its text in front of what follows, so deep values cost no copying.
-/
import JsonSelect.Json.Basic

namespace JsonSelect.Json

/-- How a character stands inside a string: only the quote, the backslash and the
characters below the blank are escaped. -/
def escape (c : Char) : List Char :=
  if c = '"' then ['\\', '"']
  else if c = '\\' then ['\\', '\\']
  else if c = '\x08' then ['\\', 'b']
  else if c = '\x0c' then ['\\', 'f']
  else if c = '\n' then ['\\', 'n']
  else if c = '\r' then ['\\', 'r']
  else if c = '\t' then ['\\', 't']
  else if c < ' ' then '\\' :: 'u' :: Numeral.hex4 c.toNat
  else [c]

def writeString (s : String) (after : List Char) : List Char :=
  '"' :: s.toList.flatMap escape ++ '"' :: after

mutual

/-- The text of a value, followed by `after`. -/
def write (after : List Char) : Json → List Char
  | .null => 'n' :: 'u' :: 'l' :: 'l' :: after
  | .bool true => 't' :: 'r' :: 'u' :: 'e' :: after
  | .bool false => 'f' :: 'a' :: 'l' :: 's' :: 'e' :: after
  | .number value => value.toText ++ after
  | .string value => writeString value after
  | .array [] => '[' :: ']' :: after
  | .array (value :: rest) => '[' :: value.write (writeElements (']' :: after) rest)
  | .object [] => '\x7b' :: '\x7d' :: after
  | .object (member :: rest) =>
      '\x7b' :: writeString member.1
        (':' :: member.2.write (writeMembers ('\x7d' :: after) rest))

def writeElements (after : List Char) : List Json → List Char
  | [] => after
  | value :: rest => ',' :: value.write (writeElements after rest)

def writeMembers (after : List Char) : List (String × Json) → List Char
  | [] => after
  | member :: rest =>
      ',' :: writeString member.1 (':' :: member.2.write (writeMembers after rest))

end

def toText (value : Json) : String :=
  String.ofList (value.write [])

example : (Json.array [.null, .object [("a\n", .bool true)]]).toText =
    "[null,\x7b\"a\\n\":true\x7d]" := by decide

end JsonSelect.Json
