/-
The grammar of paths.  A kind of text is a relation: a text begins with one of
the kind, which stands for a value, and another text is left.  Predicates stand
inside steps and steps inside predicates, so the kinds of steps are given the
kind of predicates; the circle is closed by `Unary`.
-/
import JsonSelect.Path.Basic
import JsonSelect.Text.Alphanumeric
import JsonSelect.Text.Numeral

namespace JsonSelect.Path.Grammar

abbrev Text := List Char

/-- A text begins with one of the kind, which stands for a value, and another
text is left. -/
abbrev Kind (α : Type) := Text → α → Text → Prop

/-! Blanks, numerals and quoted texts -/

/-- Any run of blanks, and what is left after it. -/
inductive Blanks : Text → Text → Prop where
  | nil (rest : Text) : Blanks rest rest
  | cons {c : Char} {text rest : Text} (hc : c ∈ [' ', '\t', '\n', '\r'])
      (htext : Blanks text rest) : Blanks (c :: text) rest

/-- A sign may be left out; it is true if it makes a number negative. -/
inductive Sign : Kind Bool where
  | absent (rest : Text) : Sign rest false rest
  | plus (rest : Text) : Sign ('+' :: rest) false rest
  | minus (rest : Text) : Sign ('-' :: rest) true rest

/-- Decimal digits, any number of them. -/
inductive Digits : Kind (List Nat) where
  | nil (rest : Text) : Digits rest [] rest
  | cons {c : Char} {ds : List Nat} {text rest : Text} (hlow : '0' ≤ c) (hhigh : c ≤ '9')
      (htext : Digits text ds rest) :
      Digits (c :: text) ((c.toNat - '0'.toNat) :: ds) rest

/-- The value of a sign and digits. -/
def signed (negative : Bool) (ds : List Nat) : Int :=
  if negative then -(Numeral.ofDigits 10 ds : Int) else Numeral.ofDigits 10 ds

/-- An integer that 64 bits hold with its sign. -/
inductive Integer : Kind Int64 where
  | intro {negative : Bool} {ds : List Nat} {i : Int64} {text text₁ rest : Text}
      (hsign : Sign text negative text₁) (hdigits : Digits text₁ ds rest) (hds : ds ≠ [])
      (hvalue : i.toInt = signed negative ds) : Integer text i rest

/-- What a single character stands for after a backslash. -/
inductive Escape : Char → Char → Prop where
  | backslash : Escape '\\' '\\'
  | slash : Escape '/' '/'
  | singleQuote : Escape '\x27' '\x27'
  | doubleQuote : Escape '"' '"'
  | backspace : Escape 'b' '\x08'
  | formFeed : Escape 'f' '\x0c'
  | lineFeed : Escape 'n' '\n'
  | carriageReturn : Escape 'r' '\r'
  | tab : Escape 't' '\t'

/-- The value of a hexadecimal digit. -/
inductive HexDigit : Char → Nat → Prop where
  | decimal {c : Char} (hlow : '0' ≤ c) (hhigh : c ≤ '9') :
      HexDigit c (c.toNat - '0'.toNat)
  | lower {c : Char} (hlow : 'a' ≤ c) (hhigh : c ≤ 'f') :
      HexDigit c (c.toNat - 'a'.toNat + 10)
  | upper {c : Char} (hlow : 'A' ≤ c) (hhigh : c ≤ 'F') :
      HexDigit c (c.toNat - 'A'.toNat + 10)

/-- The characters up to a closing quote, and the quote. -/
inductive QuotedChars (quote : Char) : Kind (List Char) where
  | close (rest : Text) : QuotedChars quote (quote :: rest) [] rest
  | plain {c : Char} {s : List Char} {text rest : Text} (hquote : c ≠ quote)
      (hc : c ≠ '\\') (htext : QuotedChars quote text s rest) :
      QuotedChars quote (c :: text) (c :: s) rest
  | escape {e c : Char} {s : List Char} {text rest : Text} (he : Escape e c)
      (htext : QuotedChars quote text s rest) :
      QuotedChars quote ('\\' :: e :: text) (c :: s) rest
  | unicode {h₁ h₂ h₃ h₄ c : Char} {n₁ n₂ n₃ n₄ : Nat} {s : List Char} {text rest : Text}
      (hn₁ : HexDigit h₁ n₁) (hn₂ : HexDigit h₂ n₂) (hn₃ : HexDigit h₃ n₃)
      (hn₄ : HexDigit h₄ n₄) (hc : c.toNat = ((n₁ * 16 + n₂) * 16 + n₃) * 16 + n₄)
      (htext : QuotedChars quote text s rest) :
      QuotedChars quote ('\\' :: 'u' :: h₁ :: h₂ :: h₃ :: h₄ :: text) (c :: s) rest

inductive Quoted : Kind String where
  | intro {quote : Char} {s : List Char} {text rest : Text}
      (hquote : quote = '\x27' ∨ quote = '"') (htext : QuotedChars quote text s rest) :
      Quoted (quote :: text) (String.ofList s) rest

/-! Literals -/

/-- A point, and the digits after it; or nothing. -/
inductive Fraction : Kind (Option (List Nat)) where
  | absent (rest : Text) : Fraction rest none rest
  | point {ds : List Nat} {text rest : Text} (hdigits : Digits text ds rest) :
      Fraction ('.' :: text) (some ds) rest

inductive Exponent : Kind (Option Int) where
  | absent (rest : Text) : Exponent rest none rest
  | mark {c : Char} {negative : Bool} {ds : List Nat} {text text₁ rest : Text}
      (hc : c = 'e' ∨ c = 'E') (hsign : Sign text negative text₁)
      (hdigits : Digits text₁ ds rest) (hds : ds ≠ []) :
      Exponent (c :: text) (some (signed negative ds)) rest

/-- The number that a literal names: an integer, where it has neither point nor
exponent and 64 bits hold it with or without a sign, and otherwise the nearest double,
which must be finite. -/
inductive Names (negative : Bool) (whole : List Nat) :
    Option (List Nat) → Option Int → Number → Prop where
  | integer (hrange : -0x8000000000000000 ≤ signed negative whole ∧
      signed negative whole < 0x10000000000000000) :
      Names negative whole none none (.integer (signed negative whole) hrange)
  | double {fraction : Option (List Nat)} {exponent : Option Int} {x : Binary64}
      (hkind : fraction = none → exponent = none →
        ¬(-0x8000000000000000 ≤ signed negative whole ∧
          signed negative whole < 0x10000000000000000))
      (hvalue :
        Binary64.ofDecimal? negative (Numeral.ofDigits 10 (whole ++ fraction.getD []))
          (exponent.getD 0 - (fraction.getD []).length) = some x) :
      Names negative whole fraction exponent (.float x)

/-- A number literal has a digit before the point or after it. -/
inductive NumberText : Kind Number where
  | intro {negative : Bool} {whole : List Nat} {fraction : Option (List Nat)}
      {exponent : Option Int} {number : Number} {text text₁ text₂ text₃ rest : Text}
      (hsign : Sign text negative text₁) (hwhole : Digits text₁ whole text₂)
      (hfraction : Fraction text₂ fraction text₃)
      (hdigit : whole ++ fraction.getD [] ≠ []) (hexponent : Exponent text₃ exponent rest)
      (hnames : Names negative whole fraction exponent number) :
      NumberText text number rest

inductive Literal : Kind Scalar where
  | null (rest : Text) : Literal ('n' :: 'u' :: 'l' :: 'l' :: rest) .null rest
  | truth (rest : Text) : Literal ('t' :: 'r' :: 'u' :: 'e' :: rest) (.bool true) rest
  | falsity (rest : Text) :
      Literal ('f' :: 'a' :: 'l' :: 's' :: 'e' :: rest) (.bool false) rest
  | string {s : String} {text rest : Text} (htext : Quoted text s rest) :
      Literal text (.string s) rest
  | number {x : Number} {text rest : Text} (htext : NumberText text x rest) :
      Literal text (.number x) rest

/-! Patterns -/

/-- The source of a regular expression up to the closing slash.  A backslash keeps a
slash from closing and is dropped before it; before any other character it stays. -/
inductive Source : Kind (List Char) where
  | close (rest : Text) : Source ('/' :: rest) [] rest
  | slash {s : List Char} {text rest : Text} (htext : Source text s rest) :
      Source ('\\' :: '/' :: text) ('/' :: s) rest
  | pair {c : Char} {s : List Char} {text rest : Text} (hc : c ≠ '/')
      (htext : Source text s rest) : Source ('\\' :: c :: text) ('\\' :: c :: s) rest
  | plain {c : Char} {s : List Char} {text rest : Text} (hslash : c ≠ '/')
      (hbackslash : c ≠ '\\') (htext : Source text s rest) :
      Source (c :: text) (c :: s) rest

inductive Flags : Kind (List Flag) where
  | nil (rest : Text) : Flags rest [] rest
  | cons {flag : Flag} {flags : List Flag} {text rest : Text}
      (htext : Flags text flags rest) : Flags (flag.letter :: text) (flag :: flags) rest

/-- A pattern has the source and the flags that are written; that it is one says that
the source is a regular expression. -/
inductive PatternText : Kind Pattern where
  | intro {pattern : Pattern} {s : List Char} {text text₁ rest : Text}
      (hsource : Source text s text₁) (hflags : Flags text₁ pattern.flags rest)
      (hpattern : pattern.source = String.ofList s) :
      PatternText ('/' :: text) pattern rest

/-! Steps, given the kind of predicates -/

/-- An integer may be left out. -/
inductive Bound : Kind (Option Int64) where
  | absent (rest : Text) : Bound rest none rest
  | present {i : Int64} {text rest : Text} (htext : Integer text i rest) :
      Bound text (some i) rest

/-- A second colon and the step; the step is one where it is not given. -/
inductive Stride : Kind Int64 where
  | absent (rest : Text) : Stride rest 1 rest
  | given {step : Option Int64} {text text₁ text₂ rest : Text}
      (hcolon : Blanks text (':' :: text₁)) (hblanks : Blanks text₁ text₂)
      (hstep : Bound text₂ step rest) : Stride text (step.getD 1) rest

/-- The step of a slice is at least one, which the slice says itself. -/
inductive SliceText : Kind Slice where
  | intro {slice : Slice} {text text₁ text₂ text₃ text₄ rest : Text}
      (hstart : Bound text slice.start text₁) (hcolon : Blanks text₁ (':' :: text₂))
      (hblanks : Blanks text₂ text₃) (hstop : Bound text₃ slice.stop text₄)
      (hstep : Stride text₄ slice.step rest) : SliceText text slice rest

inductive ItemText : Kind Item where
  | key {name : String} {text rest : Text} (htext : Quoted text name rest) :
      ItemText text (.key name) rest
  | index {position : Int64} {text rest : Text} (htext : Integer text position rest) :
      ItemText text (.index position) rest

/-- Items with commas between them. -/
inductive Items : Kind (List Item) where
  | one {item : Item} {text rest : Text} (hitem : ItemText text item rest) :
      Items text [item] rest
  | more {item : Item} {items : List Item} {text text₁ text₂ text₃ rest : Text}
      (hitem : ItemText text item text₁) (hcomma : Blanks text₁ (',' :: text₂))
      (hblanks : Blanks text₂ text₃) (hitems : Items text₃ items rest) :
      Items text (item :: items) rest

/-- An item that stands alone is a step of its own. -/
def soleStep : Item → Step
  | .key name => .key name
  | .index position => .index position

section Kinds

variable (Pred : Kind Predicate)

/-- What stands between brackets. -/
inductive Body : Kind Step where
  | wildcard (rest : Text) : Body ('*' :: rest) .wildcard rest
  | filter {predicate : Predicate} {text text₁ rest : Text} (hblanks : Blanks text text₁)
      (hpredicate : Pred text₁ predicate rest) :
      Body ('?' :: text) (.filter predicate) rest
  | slice {slice : Slice} {text rest : Text} (hslice : SliceText text slice rest) :
      Body text (.slice slice) rest
  | sole {item : Item} {text rest : Text} (hitem : ItemText text item rest) :
      Body text (soleStep item) rest
  | union {items : List Item} {text rest : Text} (hitems : Items text items rest)
      (hlength : 2 ≤ items.length) : Body text (.union items) rest

inductive Bracket : Kind Step where
  | intro {step : Step} {text text₁ text₂ rest : Text} (hblanks : Blanks text text₁)
      (hbody : Body Pred text₁ step text₂) (hclose : Blanks text₂ (']' :: rest)) :
      Bracket ('[' :: text) step rest

/-- What may follow a dot: a name of one character or more is a key. -/
inductive Child : Kind Step where
  | wildcard (rest : Text) : Child ('*' :: rest) .wildcard rest
  | bracket {step : Step} {text rest : Text} (hbracket : Bracket Pred text step rest) :
      Child text step rest
  | name {name : List Char} (hname : name ≠ [])
      (hchars : ∀ c ∈ name, (isAlphanumeric c || c = '_' || c = '-') = true)
      (rest : Text) : Child (name ++ rest) (.key (String.ofList name)) rest

inductive Segments : Kind (List Step) where
  | nil (rest : Text) : Segments rest [] rest
  | descent {step : Step} {steps : List Step} {text text₁ rest : Text}
      (hchild : Child Pred text step text₁) (hrest : Segments text₁ steps rest) :
      Segments ('.' :: '.' :: text) (.descent :: step :: steps) rest
  | dot {step : Step} {steps : List Step} {text text₁ rest : Text}
      (hchild : Child Pred text step text₁) (hrest : Segments text₁ steps rest) :
      Segments ('.' :: text) (step :: steps) rest
  | bracket {step : Step} {steps : List Step} {text text₁ rest : Text}
      (hbracket : Bracket Pred text step text₁) (hrest : Segments text₁ steps rest) :
      Segments text (step :: steps) rest

/-! Predicates -/

inductive OperandText : Kind Operand where
  | root {steps : List Step} {text rest : Text} (hsteps : Segments Pred text steps rest) :
      OperandText ('$' :: text) (.path .root steps) rest
  | current {steps : List Step} {text rest : Text}
      (hsteps : Segments Pred text steps rest) :
      OperandText ('@' :: text) (.path .current steps) rest
  | literal {value : Scalar} {text rest : Text} (hliteral : Literal text value rest) :
      OperandText text (.literal value) rest

inductive ComparisonText : Kind Comparison where
  | equal (rest : Text) : ComparisonText ('=' :: '=' :: rest) .equal rest
  | notEqual (rest : Text) : ComparisonText ('!' :: '=' :: rest) .notEqual rest
  | lessOrEqual (rest : Text) : ComparisonText ('<' :: '=' :: rest) .lessOrEqual rest
  | less (rest : Text) : ComparisonText ('<' :: rest) .less rest
  | greaterOrEqual (rest : Text) :
      ComparisonText ('>' :: '=' :: rest) .greaterOrEqual rest
  | greater (rest : Text) : ComparisonText ('>' :: rest) .greater rest

/-- An operand alone or in relation to another or to a pattern. -/
inductive Related : Kind Predicate where
  | bare {operand : Operand} {text rest : Text}
      (hoperand : OperandText Pred text operand rest) : Related text (.bare operand) rest
  | compare {comparison : Comparison} {left right : Operand}
      {text text₁ text₂ text₃ text₄ rest : Text}
      (hleft : OperandText Pred text left text₁) (hblanks : Blanks text₁ text₂)
      (hcomparison : ComparisonText text₂ comparison text₃)
      (hblanks' : Blanks text₃ text₄) (hright : OperandText Pred text₄ right rest) :
      Related text (.compare comparison left right) rest
  | matching {left : Operand} {pattern : Pattern} {text text₁ text₂ text₃ rest : Text}
      (hleft : OperandText Pred text left text₁)
      (hmark : Blanks text₁ ('=' :: '~' :: text₂)) (hblanks : Blanks text₂ text₃)
      (hpattern : PatternText text₃ pattern rest) :
      Related text (.matching left pattern) rest

variable (connective : Text) (join : Predicate → Predicate → Predicate)

/-- Further parts, each after a connective.  What is in front is joined to
each in turn. -/
inductive Links : Predicate → Kind Predicate where
  | done (front : Predicate) (rest : Text) : Links front rest front rest
  | more {front part whole : Predicate} {text text₁ text₂ text₃ rest : Text}
      (hconnective : Blanks text (connective ++ text₁)) (hblanks : Blanks text₁ text₂)
      (hpart : Pred text₂ part text₃)
      (hlinks : Links (join front part) text₃ whole rest) : Links front text whole rest

/-- Parts with a connective between them, nested to the left. -/
inductive Chain : Kind Predicate where
  | intro {first whole : Predicate} {text text₁ rest : Text}
      (hfirst : Pred text first text₁)
      (hlinks : Links Pred connective join first text₁ whole rest) : Chain text whole rest

end Kinds

/-- A negation, a predicate in parentheses, or operands.  A predicate is a disjunction of
conjunctions of these. -/
inductive Unary : Kind Predicate where
  | not {predicate : Predicate} {text text₁ rest : Text} (hblanks : Blanks text text₁)
      (hunary : Unary text₁ predicate rest) : Unary ('!' :: text) (.not predicate) rest
  | parentheses {predicate : Predicate} {text text₁ text₂ rest : Text}
      (hblanks : Blanks text text₁)
      (hpredicate :
        Chain (Chain Unary ['&', '&'] .and) ['|', '|'] .or text₁ predicate text₂)
      (hclose : Blanks text₂ (')' :: rest)) : Unary ('(' :: text) predicate rest
  | related {predicate : Predicate} {text rest : Text}
      (hrelated :
        Related (Chain (Chain Unary ['&', '&'] .and) ['|', '|'] .or)
          text predicate rest) :
      Unary text predicate rest

/-- Disjunctions of conjunctions of the given parts. -/
abbrev Disjunctions (Part : Kind Predicate) : Kind Predicate :=
  Chain (Chain Part ['&', '&'] .and) ['|', '|'] .or

/-- What stands for a predicate. -/
abbrev Disjunction : Kind Predicate :=
  Disjunctions Unary

/-- A whole text that is a path, with blanks around it. -/
inductive PathText : Text → Path → Prop where
  | intro {steps : List Step} {text text₁ text₂ : Text}
      (hroot : Blanks text ('$' :: text₁))
      (hsteps : Segments Disjunction text₁ steps text₂) (hblanks : Blanks text₂ []) :
      PathText text ⟨steps⟩

end JsonSelect.Path.Grammar
