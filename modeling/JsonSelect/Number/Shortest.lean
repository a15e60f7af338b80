/-
The text of a double: the fewest digits that read back as it, and of those the
nearest.  The digits are found on the grids of powers of ten, from coarse to
fine, by exact arithmetic.
-/
import JsonSelect.Number.Binary64
import JsonSelect.Text.Numeral

namespace JsonSelect

/-- The decimal `digits * 10 ^ exponent`. -/
structure Decimal where
  digits : Nat
  exponent : Int
deriving DecidableEq

namespace Decimal

/-- How a decimal is written.  From 0.00001 up to 10 ^ 16 the point stands among or
beside the digits, and a whole number keeps one zero after it; elsewhere the exponent is
written with its sign, after a mantissa of one digit before the point. -/
def toText (d : Decimal) : List Char :=
  let ds := Numeral.ofNat d.digits
  let point := (ds.length : Int) + d.exponent
  if 0 ≤ d.exponent ∧ point ≤ 16 then
    ds ++ List.replicate d.exponent.toNat '0' ++ ['.', '0']
  else if 0 < point ∧ point ≤ 16 then
    ds.take point.toNat ++ '.' :: ds.drop point.toNat
  else if -5 < point ∧ point ≤ 0 then
    '0' :: '.' :: List.replicate (-point).toNat '0' ++ ds
  else
    let power := point - 1
    let sign := if power < 0 then '-' else '+'
    let mantissa := if ds.length ≤ 1 then ds else ds.take 1 ++ '.' :: ds.drop 1
    mantissa ++ 'e' :: sign :: Numeral.ofNat power.natAbs

end Decimal

namespace Binary64

/-- The decimal names this double when read. -/
def readsBack (x : Binary64) (d : Decimal) : Bool :=
  ofDecimal? x.negative d.digits d.exponent = some x

/-- The largest multiple of `10 ^ exponent` that is not beyond the given units. -/
def floorOn (units : Nat) (exponent : Int) : Nat :=
  if 0 ≤ exponent then units / (Nat.pow 10 exponent.toNat <<< fineness)
  else (units * Nat.pow 10 (-exponent).toNat) >>> fineness

/-- Where the given units lie against the middle between a grid point and the next. -/
def cmpMiddle (units : Nat) (exponent : Int) (floor : Nat) : Ordering :=
  if 0 ≤ exponent then
    compare (2 * units) ((2 * floor + 1) * (Nat.pow 10 exponent.toNat <<< fineness))
  else
    compare (2 * units * Nat.pow 10 (-exponent).toNat) ((2 * floor + 1) <<< fineness)

/-- The neighbour of the value on the grid of `10 ^ exponent` that reads back, if any.
Of two the nearer is taken, and of two equally near ones the even. -/
def onGrid? (x : Binary64) (exponent : Int) : Option Decimal :=
  let floor := floorOn x.magnitude exponent
  let below : Decimal := ⟨floor, exponent⟩
  let above : Decimal := ⟨floor + 1, exponent⟩
  match x.readsBack below, x.readsBack above with
  | true, true =>
      match cmpMiddle x.magnitude exponent floor with
      | .lt => some below
      | .gt => some above
      | .eq => some (if floor % 2 = 0 then below else above)
  | true, false => some below
  | false, true => some above
  | false, false => none

/-- A grid at least as coarse as the leading digit's. -/
def coarsest (x : Binary64) : Int :=
  ((x.magnitude.log2 : Int) - 1073) * 30103 / 100000 + 2

/-- The shortest decimal that reads back.  Seventeen digits always do, and the grids
tried hold more; past them the exact value would stand. -/
def shortest (x : Binary64) : Decimal :=
  if x.isZero then ⟨0, 0⟩
  else
    let grids := (List.range 25).map fun (i : Nat) => x.coarsest - i
    (grids.findSome? x.onGrid?).getD ⟨x.magnitude * Nat.pow 5 fineness, -fineness⟩

def toText (x : Binary64) : List Char :=
  if x.negative then '-' :: x.shortest.toText else x.shortest.toText

end Binary64

example : (Decimal.mk 15 299).toText = "1.5e+300".toList := by decide
example : (Decimal.mk 1 15).toText = "1000000000000000.0".toList := by decide
example : (Decimal.mk 12 (-6)).toText = "0.000012".toList := by decide
example : (Decimal.mk 1 (-6)).toText = "1e-6".toList := by decide

end JsonSelect
