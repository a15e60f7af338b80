/-
Numbers of documents and of path literals: integers of 64 bits, signed or
unsigned, and finite doubles.  They keep their kind, and are ordered by value.
-/
import JsonSelect.Number.Shortest

namespace JsonSelect

inductive Number where
  | integer (value : Int)
      (inRange : -0x8000000000000000 ≤ value ∧ value < 0x10000000000000000)
  | float (value : Binary64)
deriving DecidableEq

namespace Number

/-- The integer itself, where 64 bits hold it with a sign or without. -/
def ofInt? (value : Int) : Option Number :=
  if h : -0x8000000000000000 ≤ value ∧ value < 0x10000000000000000
    then some (.integer value h)
  else none

/-- The nearest double to `digits * 10 ^ exponent`, if there is one. -/
def ofDecimal? (negative : Bool) (digits : Nat) (exponent : Int) : Option Number :=
  (Binary64.ofDecimal? negative digits exponent).map .float

def ofNat (n : Nat) (h : n < 0x10000000000000000) : Number :=
  .integer n (by omega)

/-- The nearest double. -/
def toBinary64 : Number → Binary64
  | .integer value h => Binary64.ofInt value (by omega)
  | .float x => x

/-- Two integers are ordered as such.  Where a double is involved both are taken as
doubles, so an integer beyond 53 bits counts as its nearest double there. -/
def cmp : Number → Number → Ordering
  | .integer a _, .integer b _ => compare a b
  | x, y => x.toBinary64.cmp y.toBinary64

/-- Integers are written in decimal; doubles always show a point or an exponent. -/
def toText : Number → List Char
  | .integer value _ => Numeral.ofInt value
  | .float x => x.toText

theorem ofInt?_eq_some_iff {value : Int} {x : Number} :
    ofInt? value = some x ↔ ∃ h, x = .integer value h := by
  unfold ofInt?
  split
  · rename_i h
    exact ⟨fun hx => ⟨h, (Option.some.inj hx).symm⟩, fun ⟨_, hx⟩ => hx ▸ rfl⟩
  · rename_i h
    exact ⟨fun hx => (nomatch hx), fun ⟨h', _⟩ => absurd h' h⟩

end Number

/-- The integer as a word of 64 bits with a sign, where it fits. -/
def int64? (value : Int) : Option Int64 :=
  if -0x8000000000000000 ≤ value ∧ value < 0x8000000000000000
    then some (Int64.ofInt value)
  else none

theorem int64?_eq_some_iff {value : Int} {i : Int64} :
    int64? value = some i ↔ i.toInt = value := by
  unfold int64?
  split
  · rename_i h
    have hvalue : (Int64.ofInt value).toInt = value :=
      Int64.toInt_ofInt_of_le h.1 h.2
    exact ⟨fun hi => Option.some.inj hi ▸ hvalue,
      fun hi => congrArg some (Int64.toInt_inj.1 (hvalue.trans hi.symm))⟩
  · rename_i h
    refine ⟨fun hi => (nomatch hi), fun hi => absurd ?_ h⟩
    have := i.le_toInt
    have := i.toInt_lt
    omega

end JsonSelect
