/-
Ranges of code points in UTF-8.  The characters of a range are encoded by the
bytes of a few sequences of byte ranges: any byte of the first, then any of the
second, and so on.
-/
import JsonSelect.Text.CharSet

namespace JsonSelect.Utf8

abbrev ByteRange := Nat × Nat

/-- The first and the last code point of an encoded length, how many bytes follow the
first, and to what the first byte's part of the code point is added. -/
structure Length where
  first : Nat
  last : Nat
  following : Nat
  lead : Nat

/-- Surrogates are left out. -/
def lengths : List Length := [
  ⟨0, 0x7f, 0, 0⟩,
  ⟨0x80, 0x7ff, 1, 0xc0⟩,
  ⟨0x800, 0xd7ff, 2, 0xe0⟩,
  ⟨0xe000, 0xffff, 2, 0xe0⟩,
  ⟨0x10000, 0x10ffff, 3, 0xf0⟩]

/-- The sequences for the numbers from `first` to `last`, of which each following byte
holds six bits; `lead` is added to what remains. -/
def sequencesFrom (lead : Nat) : Nat → Nat → Nat → List (List ByteRange)
  | 0, first, last => [[(lead + first, lead + last)]]
  | following + 1, first, last =>
      let bits := 6 * (following + 1)
      let unit := 1 <<< bits
      let low := first / unit
      let high := last / unit
      let under (byte first last : Nat) : List (List ByteRange) :=
        (sequencesFrom 0x80 following first last).map ((lead + byte, lead + byte) :: ·)
      if low = high then under low (first % unit) (last % unit)
      else
        let cutsLow := first % unit ≠ 0
        let cutsHigh := last % unit ≠ unit - 1
        let low' := if cutsLow then low + 1 else low
        let high' := if cutsHigh then high else high + 1
        (if cutsLow then under low (first % unit) (unit - 1) else []) ++
          (if low' < high' then
            [(lead + low', lead + high' - 1) ::
              List.replicate (following + 1) (0x80, 0xbf)]
          else []) ++
          (if cutsHigh then under high 0 (last % unit) else [])

/-- The sequences for the characters of a range of code points. -/
def sequences (first last : Nat) : List (List ByteRange) :=
  lengths.flatMap fun length =>
    let low := max first length.first
    let high := min last length.last
    if low ≤ high then sequencesFrom length.lead length.following low high else []

/-- The bytes of a character. -/
def encode (c : Char) : List Nat :=
  (sequences c.toNat c.toNat).flatten.map (·.1)

example : encode 'é' = [0xc3, 0xa9] := by decide
example : sequences 0x7f 0x80 =
    [[(0x7f, 0x7f)], [(0xc2, 0xc2), (0x80, 0x80)]] := by decide

/-- Every character is of one of the nine forms that UTF-8 has. -/
example : sequences 0 0x10ffff = [
    [(0, 0x7f)],
    [(0xc2, 0xdf), (0x80, 0xbf)],
    [(0xe0, 0xe0), (0xa0, 0xbf), (0x80, 0xbf)],
    [(0xe1, 0xec), (0x80, 0xbf), (0x80, 0xbf)],
    [(0xed, 0xed), (0x80, 0x9f), (0x80, 0xbf)],
    [(0xee, 0xef), (0x80, 0xbf), (0x80, 0xbf)],
    [(0xf0, 0xf0), (0x90, 0xbf), (0x80, 0xbf), (0x80, 0xbf)],
    [(0xf1, 0xf3), (0x80, 0xbf), (0x80, 0xbf), (0x80, 0xbf)],
    [(0xf4, 0xf4), (0x80, 0x8f), (0x80, 0xbf), (0x80, 0xbf)]] := by decide

end JsonSelect.Utf8
