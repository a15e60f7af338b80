/-
When the parts that readers are put together from give a value, said by what
their own parts give.
-/
import JsonSelect.Path.Outcome

namespace JsonSelect.Path

variable {α β : Type}

namespace Outcome

theorem bind_eq_ok {outcome : Outcome α} {next : α → Reader β} {b : β}
    {rest : List Char} : outcome.bind next = .ok b rest ↔
      ∃ a text, outcome = .ok a text ∧ next a text = .ok b rest := by
  cases outcome with
  | ok a text =>
      constructor
      · intro h
        exact ⟨a, text, rfl, h⟩
      · rintro ⟨_, _, h, hnext⟩
        cases h
        exact hnext
  | miss => simp [bind]
  | fail fault => simp [bind]

theorem map_eq_ok {f : α → β} {outcome : Outcome α} {b : β} {rest : List Char} :
    outcome.map f = .ok b rest ↔ ∃ a, outcome = .ok a rest ∧ f a = b := by
  cases outcome with
  | ok a text =>
      simp only [map, ok.injEq]
      constructor
      · rintro ⟨hb, hrest⟩
        exact ⟨a, ⟨rfl, hrest⟩, hb⟩
      · rintro ⟨_, ⟨rfl, hrest⟩, hb⟩
        exact ⟨hb, hrest⟩
  | miss => simp [map]
  | fail fault => simp [map]

theorem orElse_eq_ok {first : Outcome α} {second : Unit → Outcome α} {a : α}
    {rest : List Char} :
    first.orElse second = .ok a rest ↔
      first = .ok a rest ∨ first = .miss ∧ second () = .ok a rest := by
  cases first <;> simp [orElse]

/-- What a miss leaves to another is read by it. -/
theorem orElse_of_miss {first : Outcome α} (h : first = .miss)
    (second : Unit → Outcome α) : first.orElse second = second () := by
  rw [h]
  rfl

theorem orElse_of_ok {first : Outcome α} {a : α} {rest : List Char}
    (h : first = .ok a rest) (second : Unit → Outcome α) :
    first.orElse second = .ok a rest := by
  rw [h]
  rfl

theorem commit_eq_ok {outcome : Outcome α} {a : α} {rest : List Char} :
    outcome.commit = .ok a rest ↔ outcome = .ok a rest := by
  cases outcome <;> simp [commit]

theorem expect_eq_ok {cause : Cause} {text : List Char} {outcome : Outcome α} {a : α}
    {rest : List Char} :
    outcome.expect cause text = .ok a rest ↔ outcome = .ok a rest := by
  cases outcome <;> simp [expect]

end Outcome

namespace Reader

theorem expect_eq_ok {cause : Cause} {reader : Reader α} {text : List Char} {a : α}
    {rest : List Char} :
    expect cause reader text = .ok a rest ↔ reader text = .ok a rest :=
  Outcome.expect_eq_ok

theorem optional_eq_ok {reader : Reader α} {text : List Char} {value : Option α}
    {rest : List Char} :
    optional reader text = .ok value rest ↔
      (∃ a, value = some a ∧ reader text = .ok a rest) ∨
        value = none ∧ rest = text ∧ reader text = .miss := by
  unfold optional
  cases reader text with
  | ok a text' =>
      simp only [Outcome.ok.injEq, reduceCtorEq, and_false, or_false]
      constructor
      · rintro ⟨hvalue, hrest⟩
        exact ⟨a, hvalue.symm, rfl, hrest⟩
      · rintro ⟨_, hvalue, rfl, hrest⟩
        exact ⟨hvalue.symm, hrest⟩
  | miss =>
      simp only [Outcome.ok.injEq, reduceCtorEq, and_false, exists_false, false_or,
        and_true]
      constructor
      · rintro ⟨hvalue, hrest⟩
        exact ⟨hvalue.symm, hrest.symm⟩
      · rintro ⟨hvalue, hrest⟩
        exact ⟨hvalue.symm, hrest.symm⟩
  | fail fault => simp

/-- The reader takes the values one after the other, where as many are allowed for as
the text has characters. -/
def TakesMany (reader : Reader α) (text : List Char) (values : List α)
    (rest : List Char) : Prop :=
  ∀ bound, text.length ≤ bound → many reader bound text = .ok values rest

theorem takesMany_nil {reader : Reader α} {text : List Char} (h : reader text = .miss) :
    TakesMany reader text [] text := by
  intro bound hbound
  cases bound with
  | zero => rfl
  | succ bound => simp [many, h]

theorem takesMany_cons {reader : Reader α} {text text₁ rest : List Char} {value : α}
    {values : List α} (h : reader text = .ok value text₁)
    (hshorter : text₁.length < text.length)
    (hvalues : TakesMany reader text₁ values rest) :
    TakesMany reader text (value :: values) rest := by
  intro bound hbound
  cases bound with
  | zero => omega
  | succ bound =>
      have hrest := hvalues bound (by omega)
      simp [many, h, hrest, Outcome.map]

theorem char_eq_ok {c : Char} {text : List Char} {u : Unit} {rest : List Char} :
    char c text = .ok u rest ↔ text = c :: rest := by
  cases text with
  | nil => simp [char]
  | cons d text =>
      by_cases hd : d = c
      · simp [char, hd]
      · simp [char, hd]

theorem word_eq_ok {cs text : List Char} {u : Unit} {rest : List Char} :
    word cs text = .ok u rest ↔ text = cs ++ rest := by
  induction cs generalizing text with
  | nil => simp [word]
  | cons c cs ih =>
      simp only [word, Outcome.bind_eq_ok, char_eq_ok, ih, List.cons_append]
      constructor
      · rintro ⟨_, _, rfl, rfl⟩
        rfl
      · rintro rfl
        exact ⟨(), _, rfl, rfl⟩

/-- What a word is not in front of is a miss. -/
theorem word_eq_miss {cs text : List Char} (h : ∀ rest, text ≠ cs ++ rest) :
    word cs text = .miss := by
  induction cs generalizing text with
  | nil => exact absurd rfl (h text)
  | cons c cs ih =>
      cases text with
      | nil => rfl
      | cons d text =>
          by_cases hd : d = c
          · subst hd
            have htext : word cs text = .miss := by
              apply ih
              intro rest hrest
              exact h rest (by rw [hrest, List.cons_append])
            simp [word, char, Outcome.bind, htext]
          · simp [word, char, Outcome.bind, hd]

end Reader
end JsonSelect.Path
