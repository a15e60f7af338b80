/-
Patterns as they stand in paths: a regular expression between slashes, with
flags after it.
-/
import JsonSelect.Regex.Reader

namespace JsonSelect

inductive Flag where
  | ignoreCase
  | multiLine
  | dotAll
deriving DecidableEq

namespace Flag

def letter : Flag → Char
  | ignoreCase => 'i'
  | multiLine => 'm'
  | dotAll => 's'

def ofLetter? : Char → Option Flag
  | 'i' => some ignoreCase
  | 'm' => some multiLine
  | 's' => some dotAll
  | _ => none

theorem ofLetter?_letter (flag : Flag) : ofLetter? flag.letter = some flag := by
  cases flag <;> rfl

/-- The mode in which a pattern with these flags begins. -/
def mode (flags : List Flag) : Regex.Mode where
  ignoreCase := .ignoreCase ∈ flags
  multiLine := .multiLine ∈ flags
  dotAll := .dotAll ∈ flags

end Flag

/-- The source of a regular expression with its flags, in the order in which they were
given, and the machine that is made of them. -/
structure Pattern where
  source : String
  flags : List Flag
  machine : Machine
  compiled : Machine.ofPattern? (Flag.mode flags) source = some machine

namespace Pattern

/-- The pattern, if its source is a regular expression. -/
def of? (source : String) (flags : List Flag) : Option Pattern :=
  match h : Machine.ofPattern? (Flag.mode flags) source with
  | some machine => some ⟨source, flags, machine, h⟩
  | none => none

/-- The source and the flags say it all. -/
theorem eq_of_source_eq {p q : Pattern} (hsource : p.source = q.source)
    (hflags : p.flags = q.flags) : p = q := by
  obtain ⟨source, flags, machine, hp⟩ := p
  obtain ⟨_, _, machine', hq⟩ := q
  cases hsource
  cases hflags
  obtain rfl : machine = machine' := Option.some.inj (hp.symm.trans hq)
  rfl

instance : DecidableEq Pattern := fun p q =>
  if h : p.source = q.source ∧ p.flags = q.flags then .isTrue (eq_of_source_eq h.1 h.2)
  else .isFalse fun hpq => h (hpq ▸ ⟨rfl, rfl⟩)

theorem of?_source_flags (p : Pattern) : of? p.source p.flags = some p := by
  unfold of?
  split
  · exact congrArg some (eq_of_source_eq rfl rfl)
  · rename_i h
    exact absurd (h.symm.trans p.compiled) nofun

/-- Whether the pattern occurs in a text. -/
def occursIn (pattern : Pattern) (text : String) : Bool :=
  pattern.machine.occursIn text

end Pattern
end JsonSelect
