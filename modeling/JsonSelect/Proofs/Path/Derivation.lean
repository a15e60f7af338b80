/-
Predicates are the least kind that is closed under negation, parentheses and
operands.  What holds of all that is built in these ways from what it holds of
holds of every predicate.  What holds of the parts of a chain, and of what is
joined, holds of the whole.
-/
import JsonSelect.Proofs.Path.Grammar

namespace JsonSelect.Path.Grammar

variable {M : Kind Predicate}

/-- A property of derivations that negation, parentheses and operands keep
is one of all. -/
theorem Unary.least
    (hnot : ∀ {predicate : Predicate} {text text₁ rest : Text}, Blanks text text₁ →
      M text₁ predicate rest → M ('!' :: text) (.not predicate) rest)
    (hparentheses : ∀ {predicate : Predicate} {text text₁ text₂ rest : Text},
      Blanks text text₁ →
      Disjunctions M text₁ predicate text₂ → Blanks text₂ (')' :: rest) →
        M ('(' :: text) predicate rest)
    (hrelated : ∀ {predicate : Predicate} {text rest : Text},
      Related (Disjunctions M) text predicate rest → M text predicate rest)
    {text rest : Text} {predicate : Predicate} (h : Unary text predicate rest) :
    M text predicate rest := by
  -- Each kind in which predicates stand is carried over to the same kind of parts in `M`.
  exact @Unary.rec (fun text value rest _ => M text value rest)
    (fun text value rest _ => Disjunctions M text value rest)
    (fun text value rest _ => Related (Disjunctions M) text value rest)
    (fun text value rest _ => Chain M ['&', '&'] .and text value rest)
    (fun front text value rest _ =>
      Links (Chain M ['&', '&'] .and) ['|', '|'] .or front text value rest)
    (fun text value rest _ => OperandText (Disjunctions M) text value rest)
    (fun front text value rest _ => Links M ['&', '&'] .and front text value rest)
    (fun text value rest _ => Segments (Disjunctions M) text value rest)
    (fun text value rest _ => Child (Disjunctions M) text value rest)
    (fun text value rest _ => Bracket (Disjunctions M) text value rest)
    (fun text value rest _ => Body (Disjunctions M) text value rest)
    (fun hblanks _ ih => hnot hblanks ih)
    (fun hblanks _ hclose ih => hparentheses hblanks ih hclose)
    (fun _ ih => hrelated ih)
    (fun _ _ ihfirst ihlinks => .intro ihfirst ihlinks)
    (fun _ ih => .bare ih)
    (fun _ hblanks hcomparison hblanks' _ ihleft ihright =>
      .compare ihleft hblanks hcomparison hblanks' ihright)
    (fun _ hmark hblanks hpattern ih => .matching ih hmark hblanks hpattern)
    (fun _ _ ihfirst ihlinks => .intro ihfirst ihlinks)
    (fun front rest => .done front rest)
    (fun hconnective hblanks _ _ ihpart ihlinks =>
      .more hconnective hblanks ihpart ihlinks)
    (fun _ ih => .root ih)
    (fun _ ih => .current ih)
    (fun hliteral => .literal hliteral)
    (fun front rest => .done front rest)
    (fun hconnective hblanks _ _ ihpart ihlinks =>
      .more hconnective hblanks ihpart ihlinks)
    (fun rest => .nil rest)
    (fun _ _ ihchild ihrest => .descent ihchild ihrest)
    (fun _ _ ihchild ihrest => .dot ihchild ihrest)
    (fun _ _ ihbracket ihrest => .bracket ihbracket ihrest)
    (fun rest => .wildcard rest)
    (fun _ ih => .bracket ih)
    (fun hname hchars rest => .name hname hchars rest)
    (fun hblanks _ hclose ih => .intro hblanks ih hclose)
    (fun rest => .wildcard rest)
    (fun hblanks _ ih => .filter hblanks ih)
    (fun hslice => .slice hslice)
    (fun hitem => .sole hitem)
    (fun hitems hlength => .union hitems hlength)
    text predicate rest h

end JsonSelect.Path.Grammar

namespace JsonSelect.Path

open Grammar

/-! Values of chains -/

/-- Whatever is of the kind stands for a value with the property. -/
def Yields (kind : Kind Predicate) (Q : Predicate → Prop) : Prop :=
  ∀ ⦃text : Text⦄ ⦃value : Predicate⦄ ⦃rest : Text⦄, kind text value rest → Q value

section Chains

variable {Part : Kind Predicate} {connective : Text}
    {join : Predicate → Predicate → Predicate}
variable {Q : Predicate → Prop}

theorem Grammar.Links.value (hpart : Yields Part Q)
    (hjoin : ∀ left right : Predicate, Q left → Q right → Q (join left right))
    {front whole : Predicate} {text rest : Text}
    (h : Links Part connective join front text whole rest) (hfront : Q front) :
    Q whole := by
  induction h with
  | done => exact hfront
  | more hconnective hblanks hfirst hlinks ih =>
      exact ih (hjoin _ _ hfront (hpart hfirst))

theorem yields_chain (hpart : Yields Part Q)
    (hjoin : ∀ left right : Predicate, Q left → Q right → Q (join left right)) :
    Yields (Chain Part connective join) Q := by
  rintro text whole rest ⟨hfirst, hlinks⟩
  exact hlinks.value hpart hjoin (hpart hfirst)

end Chains

end JsonSelect.Path
