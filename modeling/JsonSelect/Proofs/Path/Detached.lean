/-
A derivation does not look at what it leaves.  What it takes stands at the front
of the text, and stands for the same value in front of any other text, also in
front of none.
-/
import JsonSelect.Proofs.Path.Derivation
import Mathlib

namespace JsonSelect.Path.Grammar

/-- What is in front of the rest is of the kind, whatever is left behind it. -/
def Detached (kind : Text → Text → Prop) (text rest : Text) : Prop :=
  ∃ front, text = front ++ rest ∧ ∀ rest', kind (front ++ rest') rest'

/-- The texts of a kind that are of it whatever is left behind them. -/
def Apart {α : Type} (kind : Kind α) : Kind α :=
  fun text value rest => Detached (kind · value ·) text rest

/-- What is of the one kind is of the other, whatever is left behind it. -/
def Detaches {α : Type} (kind kind' : Kind α) : Prop :=
  ∀ ⦃text : Text⦄ ⦃value : α⦄ ⦃rest : Text⦄,
    kind text value rest → Apart kind' text value rest

namespace Detached

variable {kind kind' : Text → Text → Prop} {text text₁ rest : Text}

theorem nil (h : ∀ rest, kind rest rest) (rest : Text) : Detached kind rest rest :=
  ⟨[], rfl, h⟩

theorem mono (h : Detached kind text rest)
    (hkind : ∀ ⦃text rest⦄, kind text rest → kind' text rest) :
    Detached kind' text rest := by
  obtain ⟨front, rfl, hfront⟩ := h
  exact ⟨front, rfl, fun rest' => hkind (hfront rest')⟩

/-- One part after another. -/
theorem comp (h : Detached kind text text₁) (h' : Detached kind' text₁ rest) :
    Detached (Relation.Comp kind kind') text rest := by
  obtain ⟨front, rfl, hfront⟩ := h
  obtain ⟨front', rfl, hfront'⟩ := h'
  refine ⟨front ++ front', (List.append_assoc front front' rest).symm, fun rest' => ?_⟩
  refine ⟨front' ++ rest', ?_, hfront' rest'⟩
  rw [List.append_assoc]
  exact hfront (front' ++ rest')

/-- Characters, and a part behind them. -/
theorem append (mark : Text) (h : Detached kind text rest)
    (hmark : ∀ ⦃text rest⦄, kind text rest → kind' (mark ++ text) rest) :
    Detached kind' (mark ++ text) rest := by
  obtain ⟨front, rfl, hfront⟩ := h
  refine ⟨mark ++ front, (List.append_assoc mark front rest).symm, fun rest' => ?_⟩
  rw [List.append_assoc]
  exact hmark (hfront rest')

end Detached

/-! Blanks, numerals and quoted texts -/

theorem Blanks.detached {text rest : Text} (h : Blanks text rest) :
    Detached Blanks text rest := by
  induction h with
  | nil rest => exact .nil Blanks.nil rest
  | @cons c _ _ hc _ ih => exact ih.append [c] fun _ _ => .cons hc

/-- Blanks, and characters behind them. -/
theorem Blanks.detached_mark (mark : Text) {text rest : Text}
    (h : Blanks text (mark ++ rest)) :
    Detached (fun text rest => Blanks text (mark ++ rest)) text rest := by
  obtain ⟨front, rfl, hfront⟩ := h.detached
  refine ⟨front ++ mark, (List.append_assoc front mark rest).symm, fun rest' => ?_⟩
  rw [List.append_assoc]
  exact hfront (mark ++ rest')

theorem Sign.detached {negative : Bool} {text rest : Text} (h : Sign text negative rest) :
    Detached (Sign · negative ·) text rest := by
  cases h with
  | absent => exact .nil Sign.absent _
  | plus => exact ⟨['+'], rfl, .plus⟩
  | minus => exact ⟨['-'], rfl, .minus⟩

theorem Digits.detached {ds : List Nat} {text rest : Text} (h : Digits text ds rest) :
    Detached (Digits · ds ·) text rest := by
  induction h with
  | nil rest => exact .nil Digits.nil rest
  | @cons c _ _ _ hlow hhigh _ ih => exact ih.append [c] fun _ _ => .cons hlow hhigh

theorem Integer.detached {i : Int64} {text rest : Text} (h : Integer text i rest) :
    Detached (Integer · i ·) text rest := by
  obtain ⟨hsign, hdigits, hds, hvalue⟩ := h
  refine (hsign.detached.comp hdigits.detached).mono ?_
  rintro text rest ⟨_, hsign, hdigits⟩
  exact .intro hsign hdigits hds hvalue

theorem QuotedChars.detached {quote : Char} {s : List Char} {text rest : Text}
    (h : QuotedChars quote text s rest) :
    Detached (QuotedChars quote · s ·) text rest := by
  induction h with
  | close rest => exact ⟨[quote], rfl, .close⟩
  | @plain c _ _ _ hquote hc _ ih => exact ih.append [c] fun _ _ => .plain hquote hc
  | @escape e _ _ _ _ he _ ih => exact ih.append ['\\', e] fun _ _ => .escape he
  | @unicode h₁ h₂ h₃ h₄ _ _ _ _ _ _ _ _ hn₁ hn₂ hn₃ hn₄ hc _ ih =>
      exact ih.append ['\\', 'u', h₁, h₂, h₃, h₄] fun _ _ => .unicode hn₁ hn₂ hn₃ hn₄ hc

theorem Quoted.detached {s : String} {text rest : Text} (h : Quoted text s rest) :
    Detached (Quoted · s ·) text rest := by
  obtain ⟨hquote, htext⟩ := h
  exact htext.detached.append [_] fun _ _ => .intro hquote

/-! Literals and patterns -/

theorem Fraction.detached {fraction : Option (List Nat)} {text rest : Text}
    (h : Fraction text fraction rest) : Detached (Fraction · fraction ·) text rest := by
  cases h with
  | absent => exact .nil Fraction.absent _
  | point hdigits => exact hdigits.detached.append ['.'] fun _ _ => .point

theorem Exponent.detached {exponent : Option Int} {text rest : Text}
    (h : Exponent text exponent rest) : Detached (Exponent · exponent ·) text rest := by
  cases h with
  | absent => exact .nil Exponent.absent _
  | @mark c _ _ _ _ _ hc hsign hdigits hds =>
      refine (hsign.detached.comp hdigits.detached).append [c] ?_
      rintro text rest ⟨_, hsign, hdigits⟩
      exact .mark hc hsign hdigits hds

theorem NumberText.detached {number : Number} {text rest : Text}
    (h : NumberText text number rest) :
    Detached (NumberText · number ·) text rest := by
  obtain ⟨hsign, hwhole, hfraction, hdigit, hexponent, hnames⟩ := h
  refine (hsign.detached.comp <| hwhole.detached.comp <|
    hfraction.detached.comp hexponent.detached).mono ?_
  rintro text rest ⟨_, hsign, _, hwhole, _, hfraction, hexponent⟩
  exact .intro hsign hwhole hfraction hdigit hexponent hnames

theorem Literal.detached {value : Scalar} {text rest : Text}
    (h : Literal text value rest) : Detached (Literal · value ·) text rest := by
  cases h with
  | null => exact ⟨['n', 'u', 'l', 'l'], rfl, .null⟩
  | truth => exact ⟨['t', 'r', 'u', 'e'], rfl, .truth⟩
  | falsity => exact ⟨['f', 'a', 'l', 's', 'e'], rfl, .falsity⟩
  | string htext => exact htext.detached.mono fun _ _ => .string
  | number htext => exact htext.detached.mono fun _ _ => .number

theorem Source.detached {s : List Char} {text rest : Text} (h : Source text s rest) :
    Detached (Source · s ·) text rest := by
  induction h with
  | close rest => exact ⟨['/'], rfl, .close⟩
  | slash _ ih => exact ih.append ['\\', '/'] fun _ _ => .slash
  | @pair c _ _ _ hc _ ih => exact ih.append ['\\', c] fun _ _ => .pair hc
  | @plain c _ _ _ hslash hbackslash _ ih =>
      exact ih.append [c] fun _ _ => .plain hslash hbackslash

theorem Flags.detached {flags : List Flag} {text rest : Text}
    (h : Flags text flags rest) : Detached (Flags · flags ·) text rest := by
  induction h with
  | nil rest => exact .nil Flags.nil rest
  | @cons flag _ _ _ _ ih => exact ih.append [flag.letter] fun _ _ => .cons

theorem PatternText.detached {pattern : Pattern} {text rest : Text}
    (h : PatternText text pattern rest) :
    Detached (PatternText · pattern ·) text rest := by
  obtain ⟨hsource, hflags, hpattern⟩ := h
  refine (hsource.detached.comp hflags.detached).append ['/'] ?_
  rintro text rest ⟨_, hsource, hflags⟩
  exact .intro hsource hflags hpattern

/-! What stands between brackets -/

theorem Bound.detached {bound : Option Int64} {text rest : Text}
    (h : Bound text bound rest) :
    Detached (Bound · bound ·) text rest := by
  cases h with
  | absent => exact .nil Bound.absent _
  | present htext => exact htext.detached.mono fun _ _ => .present

theorem Stride.detached {step : Int64} {text rest : Text} (h : Stride text step rest) :
    Detached (Stride · step ·) text rest := by
  cases h with
  | absent => exact .nil Stride.absent _
  | given hcolon hblanks hstep =>
      refine ((hcolon.detached_mark [':']).comp <|
        hblanks.detached.comp hstep.detached).mono ?_
      rintro text rest ⟨_, hcolon, _, hblanks, hstep⟩
      exact .given hcolon hblanks hstep

theorem SliceText.detached {slice : Slice} {text rest : Text}
    (h : SliceText text slice rest) :
    Detached (SliceText · slice ·) text rest := by
  obtain ⟨hstart, hcolon, hblanks, hstop, hstep⟩ := h
  refine (hstart.detached.comp <| (hcolon.detached_mark [':']).comp <|
    hblanks.detached.comp <| hstop.detached.comp hstep.detached).mono ?_
  rintro text rest ⟨_, hstart, _, hcolon, _, hblanks, _, hstop, hstep⟩
  exact .intro hstart hcolon hblanks hstop hstep

theorem ItemText.detached {item : Item} {text rest : Text} (h : ItemText text item rest) :
    Detached (ItemText · item ·) text rest := by
  cases h with
  | key htext => exact htext.detached.mono fun _ _ => .key
  | index htext => exact htext.detached.mono fun _ _ => .index

theorem Items.detached {items : List Item} {text rest : Text}
    (h : Items text items rest) : Detached (Items · items ·) text rest := by
  induction h with
  | one hitem => exact hitem.detached.mono fun _ _ => .one
  | more hitem hcomma hblanks _ ih =>
      refine (hitem.detached.comp <| (hcomma.detached_mark [',']).comp <|
        hblanks.detached.comp ih).mono ?_
      rintro text rest ⟨_, hitem, _, hcomma, _, hblanks, hitems⟩
      exact .more hitem hcomma hblanks hitems

/-! Steps, where the predicates in them are detached -/

section Kinds

variable {Pred Pred' : Kind Predicate}

theorem detaches_body (hpredicate : Detaches Pred Pred') :
    Detaches (Body Pred) (Body Pred') := by
  intro text step rest h
  cases h with
  | wildcard => exact ⟨['*'], rfl, .wildcard⟩
  | filter hblanks hinner =>
      refine (hblanks.detached.comp (hpredicate hinner)).append ['?'] ?_
      rintro text rest ⟨_, hblanks, hinner⟩
      exact .filter hblanks hinner
  | slice hslice => exact hslice.detached.mono fun _ _ => .slice
  | sole hitem => exact hitem.detached.mono fun _ _ => .sole
  | union hitems hlength =>
      exact hitems.detached.mono fun _ _ hitems => .union hitems hlength

theorem detaches_bracket (hpredicate : Detaches Pred Pred') :
    Detaches (Bracket Pred) (Bracket Pred') := by
  rintro text step rest ⟨hblanks, hbody, hclose⟩
  refine (hblanks.detached.comp <| (detaches_body hpredicate hbody).comp
    (hclose.detached_mark [']'])).append ['['] ?_
  rintro text rest ⟨_, hblanks, _, hbody, hclose⟩
  exact .intro hblanks hbody hclose

theorem detaches_child (hpredicate : Detaches Pred Pred') :
    Detaches (Child Pred) (Child Pred') := by
  intro text step rest h
  cases h with
  | wildcard => exact ⟨['*'], rfl, .wildcard⟩
  | bracket hbracket =>
      exact (detaches_bracket hpredicate hbracket).mono fun _ _ => .bracket
  | name hname hchars => exact ⟨_, rfl, .name hname hchars⟩

theorem detaches_segments (hpredicate : Detaches Pred Pred') :
    Detaches (Segments Pred) (Segments Pred') := by
  intro text steps rest h
  induction h with
  | nil rest => exact .nil Segments.nil rest
  | descent hchild _ ih =>
      refine ((detaches_child hpredicate hchild).comp ih).append ['.', '.'] ?_
      rintro text rest ⟨_, hchild, hrest⟩
      exact .descent hchild hrest
  | dot hchild _ ih =>
      refine ((detaches_child hpredicate hchild).comp ih).append ['.'] ?_
      rintro text rest ⟨_, hchild, hrest⟩
      exact .dot hchild hrest
  | bracket hbracket _ ih =>
      refine ((detaches_bracket hpredicate hbracket).comp ih).mono ?_
      rintro text rest ⟨_, hbracket, hrest⟩
      exact .bracket hbracket hrest

/-! Predicates -/

theorem detaches_operand (hpredicate : Detaches Pred Pred') :
    Detaches (OperandText Pred) (OperandText Pred') := by
  intro text operand rest h
  cases h with
  | root hsteps =>
      exact (detaches_segments hpredicate hsteps).append ['$'] fun _ _ => .root
  | current hsteps =>
      exact (detaches_segments hpredicate hsteps).append ['@'] fun _ _ => .current
  | literal hliteral => exact hliteral.detached.mono fun _ _ => .literal

theorem ComparisonText.detached {comparison : Comparison} {text rest : Text}
    (h : ComparisonText text comparison rest) :
    Detached (ComparisonText · comparison ·) text rest := by
  cases h with
  | equal => exact ⟨['=', '='], rfl, .equal⟩
  | notEqual => exact ⟨['!', '='], rfl, .notEqual⟩
  | lessOrEqual => exact ⟨['<', '='], rfl, .lessOrEqual⟩
  | less => exact ⟨['<'], rfl, .less⟩
  | greaterOrEqual => exact ⟨['>', '='], rfl, .greaterOrEqual⟩
  | greater => exact ⟨['>'], rfl, .greater⟩

theorem detaches_related (hpredicate : Detaches Pred Pred') :
    Detaches (Related Pred) (Related Pred') := by
  intro text predicate rest h
  cases h with
  | bare hoperand => exact (detaches_operand hpredicate hoperand).mono fun _ _ => .bare
  | compare hleft hblanks hcomparison hblanks' hright =>
      refine ((detaches_operand hpredicate hleft).comp <| hblanks.detached.comp <|
        hcomparison.detached.comp <| hblanks'.detached.comp
          (detaches_operand hpredicate hright)).mono ?_
      rintro text rest ⟨_, hleft, _, hblanks, _, hcomparison, _, hblanks', hright⟩
      exact .compare hleft hblanks hcomparison hblanks' hright
  | matching hleft hmark hblanks hpattern =>
      refine ((detaches_operand hpredicate hleft).comp <|
        (hmark.detached_mark ['=', '~']).comp <|
        hblanks.detached.comp hpattern.detached).mono ?_
      rintro text rest ⟨_, hleft, _, hmark, _, hblanks, hpattern⟩
      exact .matching hleft hmark hblanks hpattern

variable {connective : Text} {join : Predicate → Predicate → Predicate}

theorem detaches_links (hpart : Detaches Pred Pred') (front : Predicate) :
    Detaches (Links Pred connective join front) (Links Pred' connective join front) := by
  intro text whole rest h
  induction h with
  | done front rest => exact .nil (Links.done front) rest
  | more hconnective hblanks hinner _ ih =>
      refine ((hconnective.detached_mark connective).comp <| hblanks.detached.comp <|
        (hpart hinner).comp ih).mono ?_
      rintro text rest ⟨_, hconnective, _, hblanks, _, hinner, hlinks⟩
      exact .more hconnective hblanks hinner hlinks

theorem detaches_chain (hpart : Detaches Pred Pred') :
    Detaches (Chain Pred connective join) (Chain Pred' connective join) := by
  rintro text whole rest ⟨hfirst, hlinks⟩
  refine ((hpart hfirst).comp (detaches_links hpart _ hlinks)).mono ?_
  rintro text rest ⟨_, hfirst, hlinks⟩
  exact .intro hfirst hlinks

theorem detaches_disjunctions (hpart : Detaches Pred Pred') :
    Detaches (Disjunctions Pred) (Disjunctions Pred') :=
  detaches_chain (detaches_chain hpart)

end Kinds

/-- Predicates are the least kind of their form, so it is enough that each form keeps
what its parts have. -/
theorem detaches_unary : Detaches Unary Unary := by
  intro text predicate rest h
  have hparts : Detaches (Disjunctions (Apart Unary)) Disjunction :=
    detaches_disjunctions fun _ _ _ h => h
  refine Unary.least (M := Apart Unary) ?_ ?_ ?_ h
  · intro predicate text text₁ rest hblanks hinner
    refine (hblanks.detached.comp hinner).append ['!'] ?_
    rintro text rest ⟨_, hblanks, hinner⟩
    exact .not hblanks hinner
  · intro predicate text text₁ text₂ rest hblanks hinner hclose
    refine (hblanks.detached.comp <| (hparts hinner).comp
      (hclose.detached_mark [')'])).append ['('] ?_
    rintro text rest ⟨_, hblanks, _, hinner, hclose⟩
    exact .parentheses hblanks hinner hclose
  · intro predicate text rest hrelated
    exact (detaches_related hparts hrelated).mono fun _ _ => .related

/-- The steps that a text begins with are steps when they stand alone. -/
theorem detaches_steps : Detaches (Segments Disjunction) (Segments Disjunction) :=
  detaches_segments (detaches_disjunctions detaches_unary)

end JsonSelect.Path.Grammar
