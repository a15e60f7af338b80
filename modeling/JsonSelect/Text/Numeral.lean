/-
Numerals: how natural numbers and integers are written as digits, and how a run
of digits is read back.  Texts are lists of characters throughout, so that a
reader can be followed by structural recursion.
-/

namespace JsonSelect.Numeral

/-- The character of a digit below 16; letters are lower case. -/
def digitChar (d : Nat) : Char :=
  Char.ofNat (if d < 10 then 48 + d else 87 + d)

/-- The digits of `n`, least significant first.  The first argument bounds
their number. -/
def digitsFrom (base : Nat) : Nat → Nat → List Nat
  | 0, _ => []
  | bound + 1, n => if n < base then [n] else n % base :: digitsFrom base bound (n / base)

/-- The digits of `n`, most significant first.  Zero has one digit. -/
def digits (base n : Nat) : List Nat :=
  (digitsFrom base (n.log2 + 1) n).reverse

/-- The number that a run of digits stands for. -/
def ofDigits (base : Nat) (ds : List Nat) : Nat :=
  ds.foldl (fun n d => n * base + d) 0

def ofNat (n : Nat) : List Char :=
  (digits 10 n).map digitChar

def ofInt (i : Int) : List Char :=
  if i < 0 then '-' :: ofNat i.natAbs else ofNat i.natAbs

/-- Hexadecimal, padded on the left with zeros to four digits. -/
def hex4 (n : Nat) : List Char :=
  let ds := (digits 16 n).map digitChar
  List.replicate (4 - ds.length) '0' ++ ds

/-- The value of an ASCII decimal digit. -/
def decimal? (c : Char) : Option Nat :=
  if '0' ≤ c ∧ c ≤ '9' then some (c.toNat - 48) else none

/-- The value of an ASCII hexadecimal digit of either case. -/
def hexadecimal? (c : Char) : Option Nat :=
  if '0' ≤ c ∧ c ≤ '9' then some (c.toNat - 48)
  else if 'a' ≤ c ∧ c ≤ 'f' then some (c.toNat - 87)
  else if 'A' ≤ c ∧ c ≤ 'F' then some (c.toNat - 55)
  else none

/-- The longest run of decimal digits at the start of a text, and what follows it. -/
def span : List Char → List Nat × List Char
  | [] => ([], [])
  | c :: rest =>
      match decimal? c with
      | some d => (d :: (span rest).1, (span rest).2)
      | none => ([], c :: rest)

/-- The character that exactly four hexadecimal digits name; a surrogate names none. -/
def charOfHex4? (a b c d : Char) : Option Char := do
  let ds ← [a, b, c, d].mapM hexadecimal?
  let code := ofDigits 16 ds
  if code.isValidChar then some (Char.ofNat code) else none

theorem ofDigits_append (base : Nat) (ds : List Nat) (d : Nat) :
    ofDigits base (ds ++ [d]) = ofDigits base ds * base + d := by
  simp [ofDigits]

/-- Enough places for `n` make its digits stand for `n`. -/
theorem ofDigits_reverse_digitsFrom (base bound n : Nat) (hbase : 2 ≤ base)
    (hbound : n < 1 <<< bound) : ofDigits base (digitsFrom base bound n).reverse = n := by
  induction bound generalizing n with
  | zero => simp at hbound; simp [digitsFrom, ofDigits, hbound]
  | succ bound ih =>
    by_cases hn : n < base
    · simp [digitsFrom, hn, ofDigits]
    · have hdiv : n / base < 1 <<< bound := by
        have : n / base ≤ n / 2 := Nat.div_le_div_left hbase (by omega)
        omega
      simp only [digitsFrom, hn, if_false, List.reverse_cons, ofDigits_append, ih _ hdiv]
      exact Nat.div_add_mod' n base

theorem ofDigits_digits (base n : Nat) (hbase : 2 ≤ base) :
    ofDigits base (digits base n) = n :=
  ofDigits_reverse_digitsFrom base _ n hbase (by
    rw [Nat.one_shiftLeft]
    exact Nat.lt_log2_self)

example : ofInt (-120) = ['-', '1', '2', '0'] := by decide
example : hex4 0x7f = ['0', '0', '7', 'f'] := by decide
example : span ['4', '2', 'x'] = ([4, 2], ['x']) := by decide

end JsonSelect.Numeral
