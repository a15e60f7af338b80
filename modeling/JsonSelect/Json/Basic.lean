/-
JSON values.  An object is the list of its members in order; a member is found
by the first key that is equal, and in a well formed value there is only one.
-/
import JsonSelect.Number.Basic

namespace JsonSelect

inductive Json where
  | null
  | bool (value : Bool)
  | number (value : Number)
  | string (value : String)
  | array (elements : List Json)
  | object (members : List (String × Json))
deriving Inhabited

namespace Json

/-- Members in order, each with its key. -/
abbrev Members := List (String × Json)

namespace Members

def keys (members : Members) : List String :=
  members.map (·.1)

def get? (members : Members) (key : String) : Option Json :=
  (members.find? fun member => member.1 = key).map (·.2)

/-- A key that is present keeps its place and takes the new value; a new key
goes to the end. -/
def put (members : Members) (key : String) (value : Json) : Members :=
  match members with
  | [] => [(key, value)]
  | member :: rest =>
      if member.1 = key then (key, value) :: rest else member :: put rest key value

/-- Takes the member of a key away; the others keep their order. -/
def erase (members : Members) (key : String) : Members :=
  members.eraseP fun member => member.1 = key

theorem get?_nil (key : String) : get? [] key = none := rfl

theorem get?_cons (member : String × Json) (members : Members) (key : String) :
    get? (member :: members) key =
      if member.1 = key then some member.2 else get? members key := by
  by_cases h : member.1 = key <;> simp [get?, h]

theorem get?_put (members : Members) (key key' : String) (value : Json) :
    get? (put members key value) key' =
      if key = key' then some value else get? members key' := by
  induction members with
  | nil => simp [put, get?_cons, get?_nil]
  | cons member rest ih =>
    by_cases hmember : member.1 = key
    · by_cases hkey : key = key'
      · simp [put, hmember, get?_cons, hkey]
      · simp [put, hmember, get?_cons, hkey]
    · by_cases hkey : key = key'
      · subst hkey
        simp [put, hmember, get?_cons, ih]
      · simp [put, hmember, get?_cons, ih, hkey]

end Members

mutual

/-- Every object has each key once, at every depth. -/
def WellFormed : Json → Prop
  | .array elements => AllWellFormed elements
  | .object members => (Members.keys members).Nodup ∧ MembersWellFormed members
  | _ => True

def AllWellFormed : List Json → Prop
  | [] => True
  | value :: rest => value.WellFormed ∧ AllWellFormed rest

def MembersWellFormed : List (String × Json) → Prop
  | [] => True
  | member :: rest => member.2.WellFormed ∧ MembersWellFormed rest

end

/-- What a value is, apart from its contents. -/
inductive Kind where
  | null
  | boolean
  | number
  | string
  | array
  | object
deriving DecidableEq

def kind : Json → Kind
  | .null => .null
  | .bool _ => .boolean
  | .number _ => .number
  | .string _ => .string
  | .array _ => .array
  | .object _ => .object

mutual

/-- The same value with every object's members in the order of their keys. -/
def sortKeys : Json → Json
  | .array elements => .array (sortAll elements)
  | .object members =>
      .object ((sortMembers members).mergeSort fun a b => (compare a.1 b.1).isLE)
  | value => value

def sortAll : List Json → List Json
  | [] => []
  | value :: rest => value.sortKeys :: sortAll rest

def sortMembers : List (String × Json) → List (String × Json)
  | [] => []
  | member :: rest => (member.1, member.2.sortKeys) :: sortMembers rest

end

end Json
end JsonSelect
