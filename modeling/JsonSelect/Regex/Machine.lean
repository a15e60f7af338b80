/-
Machines that find out whether a regular expression matches somewhere in a text.
A machine is a program whose steps wait for a character or lead on at once; it
reads the text once, and keeps the set of steps that are waiting.
-/
import JsonSelect.Regex.Basic

namespace JsonSelect

/-- What is to be done at a step, with the steps to go on with. -/
inductive Instruction where
  /-- Waits for a character of the set. -/
  | one (s : CharSet.Table) (next : Nat)
  | edge (e : Edge) (next : Nat)
  | either (first second : Nat)
  | accept

abbrev Program := Array Instruction

namespace Program

/-- Adds an instruction; gives its step. -/
def addInstruction (program : Program) (instruction : Instruction) : Nat × Program :=
  (program.size, program.push instruction)

/-- Adds what matches the expression and goes on with a step; gives the step
to begin with. -/
def add : Regex → Nat × Program → Nat × Program
  | .empty, (next, program) => (next, program)
  | .one s, (next, program) => program.addInstruction (.one s.table next)
  | .edge e, (next, program) => program.addInstruction (.edge e next)
  | .append r s, next => add r (add s next)
  | .either r s, (next, program) =>
      let (second, program) := add s (next, program)
      let (first, program) := add r (next, program)
      program.addInstruction (.either first second)
  | .group r, next => add r next
  | .times r least none, (next, program) =>
      let (loop, program) := program.addInstruction .accept
      let (first, program) := add r (loop, program)
      let program := program.setIfInBounds loop (.either first next)
      if least = 0 then (loop, program)
      else Nat.repeat (add r) (least - 1) (first, program)
  | .times r least (some most), next =>
      let optional : Nat × Program → Nat × Program := fun (later, program) =>
        let (first, program) := add r (later, program)
        program.addInstruction (.either first next.1)
      Nat.repeat (add r) least (Nat.repeat optional (most - least) next)

end Program

structure Machine where
  program : Program
  start : Nat

namespace Machine

def ofRegex (r : Regex) : Machine :=
  let (start, program) := Program.add r (0, #[.accept])
  ⟨program, start⟩

/-- What is known at a place in the text: which steps wait, at which place each step was
reached last, and whether the expression has matched. -/
structure Arrival where
  waiting : List Nat
  reached : Array Nat
  accepted : Bool

/-- Follows the steps that lead on at once.  Each step is followed once at a place, so
that two for every instruction bound their number. -/
def follow (program : Program) (place : Nat) (before after : Option Char) :
    Nat → List Nat → Arrival → Arrival
  | 0, _, arrival => arrival
  | _ + 1, [], arrival => arrival
  | bound + 1, step :: steps, ⟨waiting, reached, accepted⟩ =>
      if reached.getD step place = place then
        follow program place before after bound steps ⟨waiting, reached, accepted⟩
      else
        let reached := reached.setIfInBounds step place
        match program.getD step .accept with
        | .one _ _ =>
            follow program place before after bound steps
              ⟨step :: waiting, reached, accepted⟩
        | .edge e next =>
            let steps := if e.holds before after then next :: steps else steps
            follow program place before after bound steps ⟨waiting, reached, accepted⟩
        | .either first second =>
            follow program place before after bound (first :: second :: steps)
              ⟨waiting, reached, accepted⟩
        | .accept => ⟨waiting, reached, true⟩

/-- The steps after those that wait for a set with this character. -/
def readChar (program : Program) (c : Char) (waiting : List Nat) : List Nat :=
  waiting.filterMap fun step =>
    match program.getD step .accept with
    | .one s next => if s.contains c then some next else none
    | _ => none

/-- What is known where some steps are reached, and a match may begin. -/
def arrive (machine : Machine) (place : Nat) (before after : Option Char)
    (steps : List Nat) (reached : Array Nat) : Arrival :=
  follow machine.program place before after (2 * machine.program.size + steps.length + 2)
    (machine.start :: steps) ⟨[], reached, false⟩

/-- Goes on from a place to the end of the text.  The places are counted from one. -/
def searchFrom (machine : Machine) (place : Nat) (before : Option Char) (steps : List Nat)
    (reached : Array Nat) : List Char → Bool
  | [] => (machine.arrive place before none steps reached).accepted
  | c :: text =>
      let ⟨waiting, reached, accepted⟩ :=
        machine.arrive place before (some c) steps reached
      accepted ||
        machine.searchFrom (place + 1) (some c)
          (readChar machine.program c waiting) reached text

/-- Whether the machine's expression matches somewhere in the text. -/
def occursIn (machine : Machine) (text : String) : Bool :=
  machine.searchFrom 1 none [] (Array.replicate machine.program.size 0) text.toList

end Machine
end JsonSelect
