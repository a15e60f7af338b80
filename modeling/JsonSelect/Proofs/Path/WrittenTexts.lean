/-
Quoted texts, patterns, slices and lists of items as they are written: the
grammar derives from the text what was written.
-/
import JsonSelect.Proofs.Path.Texts
import JsonSelect.Proofs.Path.WrittenNumbers
import Mathlib

namespace JsonSelect.Path

open Grammar

/-! Quoted texts -/

theorem toNat_lt_of_isControl {c : Char} (hc : Quoted.isControl c = true) :
    c.toNat < 16 ^ 4 := by
  simp only [Quoted.isControl, Bool.or_eq_true, Bool.and_eq_true, decide_eq_true_eq] at hc
  rcases hc with hc | ⟨-, hc⟩
  · have hspace : c.toNat < 32 := hc
    omega
  · omega

theorem quotedChars_hex4 {c : Char} (hc : c.toNat < 16 ^ 4) {quote : Char} {s : List Char}
    {text rest : Text} (htext : QuotedChars quote text s rest) :
    QuotedChars quote ('\\' :: 'u' :: Numeral.hex4 c.toNat ++ text) (c :: s) rest := by
  obtain ⟨d₁, d₂, d₃, d₄, hchars, hlt, hvalue⟩ := Numeral.hex4_eq_map hc
  have hdigit : ∀ d ∈ [d₁, d₂, d₃, d₄], HexDigit (Numeral.digitChar d) d := by
    intro d hd
    exact hexDigit_iff.2 (Numeral.hexadecimal?_digitChar (hlt d hd))
  rw [hchars]
  exact .unicode (hdigit d₁ (by simp)) (hdigit d₂ (by simp)) (hdigit d₃ (by simp))
    (hdigit d₄ (by simp)) hvalue htext

/-- Each character is derived from how it stands between single quotes. -/
theorem quotedChars_escape (c : Char) {s : List Char} {text rest : Text}
    (htext : QuotedChars '\x27' text s rest) :
    QuotedChars '\x27' (Quoted.escape c ++ text) (c :: s) rest := by
  unfold Quoted.escape
  split_ifs with hquote hbackslash hn hr ht hcontrol
  · rw [hquote]
    exact .escape .singleQuote htext
  · rw [hbackslash]
    exact .escape .backslash htext
  · rw [hn]
    exact .escape .lineFeed htext
  · rw [hr]
    exact .escape .carriageReturn htext
  · rw [ht]
    exact .escape .tab htext
  · exact quotedChars_hex4 (toNat_lt_of_isControl hcontrol) htext
  · exact .plain hquote hbackslash htext

theorem quoted_write (s : String) (after : Text) :
    Quoted (Quoted.write s after) s after := by
  have hchars : ∀ chars : List Char,
      QuotedChars '\x27' (chars.flatMap Quoted.escape ++ '\x27' :: after)
        chars after := by
    intro chars
    induction chars with
    | nil => exact .close after
    | cons c chars ih =>
        rw [List.flatMap_cons, List.append_assoc]
        exact quotedChars_escape c ih
  have hquoted := Grammar.Quoted.intro (Or.inl rfl) (hchars s.toList)
  rwa [String.ofList_toList] at hquoted

/-- What was written between quotes is read, and the text behind it is left. -/
theorem Quoted.read_write (s : String) (after : List Char) :
    Quoted.read (Quoted.write s after) = .ok s after :=
  quoted_iff.1 (quoted_write s after)

/-! Patterns -/

/-- A source that was read once is read from its text with the slashes escaped again. -/
theorem Grammar.Source.write {text rest : Text} {s : List Char} (h : Source text s rest)
    (after : Text) :
    Source ((s.flatMap fun c => if c = '/' then ['\\', '/'] else [c]) ++ '/' :: after)
      s after := by
  induction h with
  | close => exact .close after
  | slash htext ih =>
      rw [List.flatMap_cons, if_pos rfl]
      exact .slash ih
  | pair hc htext ih =>
      rw [List.flatMap_cons, List.flatMap_cons, if_neg (by decide), if_neg hc]
      exact .pair hc ih
  | plain hslash hbackslash htext ih =>
      rw [List.flatMap_cons, if_neg hslash]
      exact .plain hslash hbackslash ih

theorem flags_write (flags : List Flag) (after : Text) :
    Flags (flags.map Flag.letter ++ after) flags after := by
  induction flags with
  | nil => exact .nil after
  | cons flag flags ih => exact .cons ih

theorem Grammar.PatternText.write {text rest : Text} {pattern : Pattern}
    (h : PatternText text pattern rest) (after : Text) :
    PatternText (pattern.write after) pattern after := by
  obtain ⟨hsource, -, hpattern⟩ := h
  have hwritten := hsource.write (pattern.flags.map Flag.letter ++ after)
  refine .intro ?_ (flags_write pattern.flags after) hpattern
  rw [hpattern, String.toList_ofList]
  simpa using hwritten

theorem literal_write (value : Scalar) (after : Text) :
    Literal (value.write after) value after := by
  cases value with
  | null => exact .null after
  | bool value =>
      cases value with
      | false => exact .falsity after
      | true => exact .truth after
  | number x => exact .number (numberText_toText x after)
  | string s => exact .string (quoted_write s after)

/-! Slices and items -/

theorem bound_write (bound : Option Int64) (after : Text) :
    Bound ((bound.elim [] fun i => Numeral.ofInt i.toInt) ++ after) bound after := by
  cases bound with
  | none => exact .absent after
  | some i => exact .present (integer_ofInt i after)

theorem stride_write (step : Int64) (after : Text) :
    Stride (if step = 1 then after else ':' :: Numeral.ofInt step.toInt ++ after)
      step after := by
  split
  · rename_i hstep
    rw [hstep]
    exact .absent after
  · exact Stride.given (.nil _) (.nil _) (bound_write (some step) after)

theorem sliceText_write (slice : Slice) (after : Text) :
    SliceText (slice.write after) slice after := by
  have hstart := bound_write slice.start (':' :: ((slice.stop.elim [] fun i =>
    Numeral.ofInt i.toInt) ++ if slice.step = 1 then after
      else ':' :: Numeral.ofInt slice.step.toInt ++ after))
  have hstop := bound_write slice.stop (if slice.step = 1 then after
    else ':' :: Numeral.ofInt slice.step.toInt ++ after)
  have hslice :=
    SliceText.intro hstart (.nil _) (.nil _) hstop (stride_write slice.step after)
  simpa [Slice.write] using hslice

theorem itemText_write (item : Item) (after : Text) :
    ItemText (item.write after) item after := by
  cases item with
  | key name => exact .key (quoted_write name after)
  | index position => exact .index (integer_ofInt position after)

theorem items_write (item : Item) (items : List Item) (after : Text) :
    Items (Item.writeAll after (item :: items)) (item :: items) after := by
  induction items generalizing item with
  | nil => exact .one (itemText_write item after)
  | cons next items ih =>
      exact .more (itemText_write item _) (.nil _) (.nil _) (ih next)

end JsonSelect.Path
