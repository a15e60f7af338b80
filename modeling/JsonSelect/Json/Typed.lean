/-
Values of Lean types read from JSON and written as JSON.  A number is read as an
integer only if it is one and the type has room for it.
-/
import JsonSelect.Json.JsonReader
import Std.Data.TreeMap

namespace JsonSelect

/-- A type whose values are read from JSON.  What is not one of them is an error
of the reader. -/
class OfJson [JsonReader] (α : Type) where
  ofJson : Json → Except JsonReader.Error α

class ToJson (α : Type) where
  toJson : α → Json

export OfJson (ofJson)
export ToJson (toJson)

/-- Reads an integer that a type of the given name may have room for. -/
def Json.integerAs {α : Type} (wanted : String) (ofInt? : Int → Option α) :
    Json → Except Json.Error α
  | .number (.integer value inRange) =>
      match ofInt? value with
      | some a => .ok a
      | none => .error (.outOfRange (.number (.integer value inRange)) wanted)
  | value => .error (.wrongKind value wanted)

instance : OfJson Json := ⟨.ok⟩

instance : ToJson Json := ⟨id⟩

instance : OfJson Int64 where
  ofJson := Json.integerAs "i64" int64?

instance : ToJson Int64 where
  toJson i := .number (.integer i.toInt
    ⟨i.le_toInt, Int.lt_trans i.toInt_lt (by decide)⟩)

instance : OfJson UInt64 where
  ofJson := Json.integerAs "u64" fun i =>
    if 0 ≤ i ∧ i < UInt64.size then some (UInt64.ofNat i.toNat) else none

instance : ToJson UInt64 where
  toJson i := .number (.ofNat i.toNat i.toNat_lt)

instance : OfJson UInt8 where
  ofJson := Json.integerAs "u8" fun i =>
    if 0 ≤ i ∧ i < UInt8.size then some (UInt8.ofNat i.toNat) else none

instance : ToJson UInt8 where
  toJson i := .number (.ofNat i.toNat (Nat.lt_trans i.toNat_lt (by decide)))

/-- Any number is read as the double nearest to it. -/
instance : OfJson Binary64 where
  ofJson
    | .number value => .ok value.toBinary64
    | value => .error (.wrongKind value "f64")

instance : ToJson Binary64 where
  toJson x := .number (.float x)

instance : OfJson Bool where
  ofJson
    | .bool value => .ok value
    | value => .error (.wrongKind value "a boolean")

instance : ToJson Bool := ⟨.bool⟩

instance : OfJson String where
  ofJson
    | .string value => .ok value
    | value => .error (.wrongKind value "a string")

instance : ToJson String := ⟨.string⟩

instance {α : Type} [OfJson α] : OfJson (Option α) where
  ofJson
    | .null => .ok none
    | value => (ofJson value).map some

instance {α : Type} [ToJson α] : ToJson (Option α) where
  toJson
    | none => .null
    | some value => toJson value

instance {α : Type} [OfJson α] : OfJson (List α) where
  ofJson
    | .array elements => elements.mapM ofJson
    | value => .error (.wrongKind value "a sequence")

instance {α : Type} [ToJson α] : ToJson (List α) where
  toJson values := .array (values.map toJson)

instance {α : Type} [OfJson α] : OfJson (Std.TreeMap String α) where
  ofJson
    | .object members => do
        let entries ← members.mapM fun member => (ofJson member.2).map (member.1, ·)
        return Std.TreeMap.ofList entries
    | value => .error (.wrongKind value "a map")

/-- The keys come in their order. -/
instance {α : Type} [ToJson α] : ToJson (Std.TreeMap String α) where
  toJson map := .object (map.toList.map fun entry => (entry.1, toJson entry.2))

end JsonSelect
