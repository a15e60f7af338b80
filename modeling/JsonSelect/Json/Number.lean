/-
The numbers that JSON texts are read as.  Whole numbers of 64 bits are exact.
All others become doubles by a product or a quotient with a power of ten, each
of the two rounded before, and so may miss the nearest double by a little.
-/
import JsonSelect.Number.Basic

namespace JsonSelect

/-- Goes on with digits behind a number as long as it stays below a bound.  Tells the
number and how many digits are left. -/
def Numeral.gather (bound n : Nat) : List Nat → Nat × Nat
  | [] => (n, 0)
  | d :: ds =>
      if n * 10 + d < bound then gather bound (n * 10 + d) ds else (n, ds.length + 1)

namespace Binary64

/-- The nearest double to a power of ten, if there is one. -/
def tenTo? (exponent : Nat) : Option Binary64 :=
  ofDecimal? false 1 exponent

/-- Divides by `10 ^ 308` a number of times, or until there is zero. -/
def divideDown? (x : Binary64) : Nat → Option Binary64
  | 0 => some x
  | times + 1 =>
      if x.isZero then some x else do
        let smaller ← x.div? (← tenTo? 308)
        smaller.divideDown? times

/-- A double times a power of ten, or none past the largest double.  The power is a double
itself, so what is left of an exponent below -308 comes after divisions by `10 ^ 308`. -/
def timesTenTo? (x : Binary64) (exponent : Int) : Option Binary64 := do
  if 0 ≤ exponent then
    if x.isZero then return x else x.mul? (← tenTo? exponent.toNat)
  else
    let times := ((-exponent).toNat - 1) / 308
    (← x.divideDown? times).div? (← tenTo? ((-exponent).toNat - 308 * times))

end Binary64

namespace Json

/-- The double that is read from digits before and behind a point, and an exponent.  As
many digits count as 64 bits hold; of the others those before the point count as zeros. -/
def doubleOf? (negative : Bool) (whole fraction : List Nat) (exponent : Int) :
    Option Binary64 := do
  let (significand, zeros) := Numeral.gather 0x10000000000000000 0 whole
  let (significand, dropped) := Numeral.gather 0x10000000000000000 significand fraction
  let places : Int := fraction.length - dropped
  let x ← (← Binary64.ofInt? significand).timesTenTo? (exponent + zeros - places)
  return { x with negative }

/-- The number of a sign, digits, and what follows them.  With neither point nor
exponent it is an integer where 64 bits hold it, save that minus zero is a double. -/
def numberOf? (negative : Bool) (whole : List Nat) (fraction : Option (List Nat))
    (exponent : Option Int) : Option Number :=
  match fraction, exponent with
  | none, none =>
      match negative, Numeral.ofDigits 10 whole with
      | true, 0 => some (.float (.zero true))
      | true, n => Number.ofInt? (-n) <|> (doubleOf? true whole [] 0).map .float
      | false, n => Number.ofInt? n <|> (doubleOf? false whole [] 0).map .float
  | _, _ => (doubleOf? negative whole (fraction.getD []) (exponent.getD 0)).map .float

end Json
end JsonSelect
