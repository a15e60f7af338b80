/-
What a reply says of a path and of its matches stands on lines of its own: no
text of a number, a value, a location or a path's error has a line feed in it,
since the writers escape those of strings and names.
-/
import JsonSelect.Dialogue
import JsonSelect.Proofs.Text.Digits

namespace JsonSelect

/-! Numbers -/

theorem Numeral.lineFeed_notMem_digits {ds : List Nat} (hds : ∀ d ∈ ds, d < 16) :
    '\n' ∉ ds.map digitChar := by
  intro hmem
  obtain ⟨d, hd, hchar⟩ := List.mem_map.1 hmem
  have hdigit := hexadecimal?_digitChar (hds d hd)
  have hnone : hexadecimal? '\n' = none := by decide
  rw [hchar, hnone] at hdigit
  contradiction

theorem Numeral.lineFeed_notMem_ofNat (n : Nat) : '\n' ∉ ofNat n := by
  apply lineFeed_notMem_digits
  intro d hd
  have hlt := digits_lt (by decide) n d hd
  omega

theorem Numeral.lineFeed_notMem_ofInt (i : Int) : '\n' ∉ ofInt i := by
  unfold ofInt
  split <;> simp [lineFeed_notMem_ofNat]

theorem Numeral.lineFeed_notMem_hex4 (n : Nat) : '\n' ∉ hex4 n := by
  have hdigits := lineFeed_notMem_digits (digits_lt (by decide) n)
  simp [hex4, hdigits]

theorem Decimal.lineFeed_notMem_toText (d : Decimal) : '\n' ∉ d.toText := by
  have hdigits := Numeral.lineFeed_notMem_ofNat d.digits
  have htake (n : Nat) : '\n' ∉ (Numeral.ofNat d.digits).take n :=
    fun hmem => hdigits (List.mem_of_mem_take hmem)
  have hdrop (n : Nat) : '\n' ∉ (Numeral.ofNat d.digits).drop n :=
    fun hmem => hdigits (List.mem_of_mem_drop hmem)
  simp only [Decimal.toText]
  split_ifs <;> simp [hdigits, htake, hdrop, Numeral.lineFeed_notMem_ofNat,
    -List.drop_one]

theorem Number.lineFeed_notMem_toText (x : Number) : '\n' ∉ x.toText := by
  rcases x with ⟨value, hrange⟩ | x
  · exact Numeral.lineFeed_notMem_ofInt value
  · rw [Number.toText, Binary64.toText]
    split <;> simp [Decimal.lineFeed_notMem_toText]

/-! Locations -/

theorem Path.Quoted.lineFeed_notMem_escape (c : Char) : '\n' ∉ escape c := by
  by_cases hfeed : c = '\n'
  · rw [hfeed]
    decide
  · unfold escape
    split_ifs <;> simp [Numeral.lineFeed_notMem_hex4, Ne.symm hfeed]

theorem Path.Quoted.lineFeed_notMem_write (s : String) {after : List Char}
    (hafter : '\n' ∉ after) :
    '\n' ∉ write s after := by
  simp [write, lineFeed_notMem_escape, hafter]

theorem Element.lineFeed_notMem_write (element : Element) {after : List Char}
    (hafter : '\n' ∉ after) : '\n' ∉ element.write after := by
  rcases element with name | position
  · simp [write, Path.Quoted.lineFeed_notMem_write, hafter]
  · simp [write, Numeral.lineFeed_notMem_ofNat, hafter]

theorem Location.lineFeed_notMem_toText (location : Location) :
    '\n' ∉ location.toText.toList := by
  have helements : '\n' ∉ location.foldr (fun element after => element.write after)
      [] := by
    induction location with
    | nil => simp
    | cons element rest ih => exact element.lineFeed_notMem_write ih
  simp [toText, write, helements]

/-! Values -/

theorem Json.lineFeed_notMem_escape (c : Char) : '\n' ∉ escape c := by
  by_cases hfeed : c = '\n'
  · rw [hfeed]
    decide
  · unfold escape
    split_ifs <;> simp [Numeral.lineFeed_notMem_hex4, Ne.symm hfeed]

theorem Json.lineFeed_notMem_writeString (s : String) {after : List Char}
    (hafter : '\n' ∉ after) :
    '\n' ∉ writeString s after := by
  simp [writeString, lineFeed_notMem_escape, hafter]

mutual

theorem Json.lineFeed_notMem_write {after : List Char} (hafter : '\n' ∉ after)
    (value : Json) :
    '\n' ∉ value.write after := by
  match value with
  | .null | .bool true | .bool false => simp [write, hafter]
  | .number x => simp [write, hafter, x.lineFeed_notMem_toText]
  | .string s => exact lineFeed_notMem_writeString s hafter
  | .array [] | .object [] => simp [write, hafter]
  | .array (value :: rest) =>
      have hclose : '\n' ∉ ']' :: after := by simp [hafter]
      have hrest := lineFeed_notMem_writeElements hclose rest
      simp [write, lineFeed_notMem_write hrest value]
  | .object (member :: rest) =>
      have hclose : '\n' ∉ '\x7d' :: after := by simp [hafter]
      have hrest := lineFeed_notMem_writeMembers hclose rest
      have hvalue := lineFeed_notMem_write hrest member.2
      rw [write, List.mem_cons, not_or]
      exact ⟨by decide, lineFeed_notMem_writeString _ (by simp [hvalue])⟩

theorem Json.lineFeed_notMem_writeElements {after : List Char} (hafter : '\n' ∉ after)
    (elements : List Json) : '\n' ∉ writeElements after elements := by
  match elements with
  | [] => exact hafter
  | value :: rest =>
      have hrest := lineFeed_notMem_writeElements hafter rest
      simp [writeElements, lineFeed_notMem_write hrest value]

theorem Json.lineFeed_notMem_writeMembers {after : List Char} (hafter : '\n' ∉ after)
    (members : List (String × Json)) : '\n' ∉ writeMembers after members := by
  match members with
  | [] => exact hafter
  | member :: rest =>
      have hrest := lineFeed_notMem_writeMembers hafter rest
      have hvalue := lineFeed_notMem_write hrest member.2
      rw [writeMembers, List.mem_cons, not_or]
      exact ⟨by decide, lineFeed_notMem_writeString _ (by simp [hvalue])⟩

end

/-! Errors -/

theorem Path.Cause.lineFeed_notMem_message (cause : Path.Cause) :
    '\n' ∉ cause.message.toList := by
  cases cause <;> simp [message]

theorem Path.Error.lineFeed_notMem_message (error : Path.Error) :
    '\n' ∉ error.message.toList := by
  -- not by the equation of `message`, for which its first words would be decoded
  have hmessage : error.message = String.ofList ("at position ".toList ++
      Numeral.ofNat error.position ++ ", ".toList ++ error.cause.message.toList) := rfl
  simp [hmessage, Path.Cause.lineFeed_notMem_message, Numeral.lineFeed_notMem_ofNat]

end JsonSelect
