/-
Sums of a measure over a list: bytes of a text, work on a stack.
-/

namespace JsonSelect

variable {α β : Type}

def sumOf (measure : α → Nat) : List α → Nat
  | [] => 0
  | x :: xs => measure x + sumOf measure xs

theorem sumOf_append (measure : α → Nat) (xs ys : List α) :
    sumOf measure (xs ++ ys) = sumOf measure xs + sumOf measure ys := by
  induction xs with
  | nil => simp [sumOf]
  | cons x xs ih => simp [sumOf, ih, Nat.add_assoc]

theorem sumOf_map (measure : β → Nat) (f : α → β) (xs : List α) :
    sumOf measure (xs.map f) = sumOf (fun x => measure (f x)) xs := by
  induction xs with
  | nil => rfl
  | cons x xs ih => simp [sumOf, ih]

/-- How many bytes a text takes. -/
def byteLength (text : List Char) : Nat :=
  sumOf Char.utf8Size text

end JsonSelect
