/-
The text of a location: a path of keys and indices in brackets.
-/
import JsonSelect.Location.Basic
import JsonSelect.Path.Quoted

namespace JsonSelect

def Element.write (after : List Char) : Element → List Char
  | .key name => '[' :: Path.Quoted.write name (']' :: after)
  | .index position => '[' :: Numeral.ofNat position ++ ']' :: after

def Element.toText (element : Element) : String :=
  String.ofList (element.write [])

def Location.write (after : List Char) (location : Location) : List Char :=
  '$' :: location.foldr (fun element after => element.write after) after

def Location.toText (location : Location) : String :=
  String.ofList (location.write [])

example : Location.toText [.key "it's", .index 10] = "$['it\\'s'][10]" := by decide

end JsonSelect
