/-
The order of locations.  A location is before every one that it begins, and
among the children of an array the lower place is before the higher.
-/
import Mathlib
import JsonSelect.Location.Basic

namespace JsonSelect

namespace Element

theorem compare_key_key (name name' : String) :
    compare (Element.key name) (.key name') = compare name name' := by
  change (compare name name').then .eq = compare name name'
  rw [Ordering.then_eq]

theorem compare_index_index (place place' : Nat) :
    compare (Element.index place) (.index place') = compare place place' := by
  change (compare place place').then .eq = compare place place'
  rw [Ordering.then_eq]

theorem compare_key_index (name : String) (place : Nat) :
    compare (Element.key name) (.index place) = .lt := rfl

theorem compare_index_key (place : Nat) (name : String) :
    compare (Element.index place) (.key name) = .gt := rfl

instance : Std.TransOrd Element where
  eq_swap := by
    intro a b
    cases a <;> cases b
    · rw [compare_key_key, compare_key_key]
      exact Std.OrientedCmp.eq_swap
    · rfl
    · rfl
    · rw [compare_index_index, compare_index_index]
      exact Std.OrientedCmp.eq_swap
  isLE_trans := by
    intro a b c hab hbc
    cases a <;> cases b <;> cases c <;>
      simp only [compare_key_key, compare_index_index, compare_key_index,
        compare_index_key]
        at hab hbc ⊢
    · exact Std.TransCmp.isLE_trans hab hbc
    · rfl
    · cases hbc
    · rfl
    · cases hab
    · cases hab
    · cases hbc
    · exact Std.TransCmp.isLE_trans hab hbc

instance : Std.LawfulEqOrd Element where
  compare_self := by
    intro a
    cases a
    · rw [compare_key_key]
      exact Std.ReflCmp.compare_self
    · rw [compare_index_index]
      exact Std.ReflCmp.compare_self
  eq_of_compare := by
    intro a b h
    cases a <;> cases b
    · rw [compare_key_key] at h
      exact congrArg Element.key (Std.LawfulEqCmp.eq_of_compare h)
    · cases h
    · cases h
    · rw [compare_index_index] at h
      exact congrArg Element.index (Std.LawfulEqCmp.eq_of_compare h)

end Element

namespace Location

theorem compare_cons_self (element : Element) (location location' : Location) :
    compare (element :: location) (element :: location') =
      compare location location' := by
  have hself : compare element element = .eq := Std.ReflCmp.compare_self
  rw [List.compare_cons_cons, hself]
  rfl

theorem compare_index_cons_of_lt {place place' : Nat} (hlt : place < place')
    (location location' : Location) :
    compare (Element.index place :: location) (Element.index place' :: location') =
      .lt := by
  rw [List.compare_cons_cons, Element.compare_index_index, Nat.compare_eq_lt.2 hlt]
  rfl

theorem compare_append_left (outer location location' : Location) :
    compare (outer ++ location) (outer ++ location') = compare location location' := by
  induction outer with
  | nil => rfl
  | cons element outer ih =>
      rw [List.cons_append, List.cons_append, compare_cons_self, ih]

theorem lt_of_prefix {outer location : Location} (hbegins : outer <+: location)
    (hne : outer ≠ location) : compare outer location = .lt := by
  obtain ⟨rest, rfl⟩ := hbegins
  have hrest : rest ≠ [] := fun heq => hne (by rw [heq, List.append_nil])
  obtain ⟨element, rest, rfl⟩ := List.exists_cons_of_ne_nil hrest
  have hcompare := compare_append_left outer [] (element :: rest)
  rwa [List.append_nil] at hcompare

end Location
end JsonSelect
