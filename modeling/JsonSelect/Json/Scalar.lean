/-
Scalars: the values that have an order.  Two scalars compare if they are of the
same kind: false is before true, strings go by code points, numbers by value.
-/
import JsonSelect.Json.Basic

namespace JsonSelect

inductive Scalar where
  | null
  | bool (value : Bool)
  | number (value : Number)
  | string (value : String)
deriving DecidableEq

namespace Scalar

def cmp? : Scalar → Scalar → Option Ordering
  | .null, .null => some .eq
  | .bool a, .bool b => some (compare a b)
  | .number a, .number b => some (a.cmp b)
  | .string a, .string b => some (compare a b)
  | _, _ => none

/-- What counts as true where a truth value is wanted. -/
def isTruthy : Scalar → Bool
  | .null => false
  | .bool value => value
  | _ => true

end Scalar

def Json.scalar? : Json → Option Scalar
  | .null => some .null
  | .bool value => some (.bool value)
  | .number value => some (.number value)
  | .string value => some (.string value)
  | _ => none

end JsonSelect
