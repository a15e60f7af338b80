/-
How much room the machines take that match an expression byte by byte, one that
reads a text forward and one that reads it backward.  Counted repetitions are
written out in them.  The machines are not built; what is said here is how the
numbers of their states and bytes grow with each part of the expression.
-/
import JsonSelect.Regex.Basic
import JsonSelect.Text.Utf8

namespace JsonSelect.Regex

inductive Direction where
  | forward
  | backward
deriving DecidableEq

/-- The size of a machine.  Besides its states it has ranges of bytes that lead on from
some of them, and branches. -/
structure Weight where
  states : Nat := 0
  ranges : Nat := 0
  branches : Nat := 0

namespace Weight

def bytes (weight : Weight) : Nat :=
  32 * weight.states + 8 * weight.ranges + 4 * weight.branches

/-- An expression is refused if a machine takes more bytes than this. -/
def maxBytes : Nat := 0xa00000

def isOver (weight : Weight) : Bool :=
  maxBytes < weight.bytes

def add (weight other : Weight) : Weight :=
  ⟨weight.states + other.states, weight.ranges + other.ranges,
    weight.branches + other.branches⟩

end Weight

/-- How a machine grows by a part of an expression.  What is added to one that is too
large already does not matter. -/
structure Growth where
  grow : Weight → Weight

namespace Growth

def of (grow : Weight → Weight) : Growth :=
  ⟨fun weight => if weight.isOver then weight else grow weight⟩

/-- The same growth wherever it happens. -/
def fixed (states ranges branches : Nat) : Growth :=
  of fun weight => weight.add ⟨states, ranges, branches⟩

/-- One after the other. -/
def sequence (growths : List Growth) : Growth :=
  of fun weight => growths.foldl (fun weight growth => growth.grow weight) weight

/-- As often as is said; as there is a state in all that grows, it need not be done more
often than it takes states alone to be too large. -/
def times (growth : Growth) (count : Nat) : Growth :=
  of fun weight => Nat.repeat growth.grow (min count (Weight.maxBytes / 32 + 1)) weight

end Growth

/-- Neighbours that begin alike, with their beginning and what follows it in each.  An
empty list has no beginning and is left out. -/
def byHead {α : Type} [DecidableEq α] : List (List α) → List (α × List (List α))
  | [] => []
  | [] :: lists => byHead lists
  | (head :: rest) :: lists =>
      match byHead lists with
      | [] => [(head, [rest])]
      | (next, others) :: groups =>
          if head = next then (head, rest :: others) :: groups
          else (head, [rest]) :: (next, others) :: groups

/-! Sets beyond ASCII, of which a machine has the sequences of byte ranges in UTF-8.
Going forward, states from which the same leads to the end are one. -/

/-- A state of a forward machine: each range that leads on, and the number of the state
that it leads to. -/
abbrev Node := List (Utf8.ByteRange × Nat)

/-- Adds the state from which the rest of each sequence leads to the end, unless there
is one like it; the end is number zero. -/
def addNode : Nat → List (List Utf8.ByteRange) → List Node → Nat × List Node
  | 0, _, nodes => (0, nodes)
  | bound + 1, sequences, nodes =>
      let branches := byHead sequences
      if branches.isEmpty then (0, nodes)
      else
        let (node, nodes) := branches.foldl (fun (node, nodes) (head, rest) =>
          let (next, nodes) := addNode bound rest nodes
          (node ++ [(head, next)], nodes)) ([], nodes)
        match nodes.idxOf? node with
        | some place => (place + 1, nodes)
        | none => (nodes.length + 1, nodes ++ [node])

def growForward (sequences : List (List Utf8.ByteRange)) : Growth :=
  let nodes := (addNode 4 sequences []).2
  .fixed (nodes.length + 1) (sumOf List.length nodes) 0

/-! Going backward, every sequence is a branch, and sequences that begin alike share the
states of their beginnings as long as these are remembered.  There are a thousand places
to remember them at, and what comes to a place drives out what was there. -/

/-- A state and the range by which it leads on to another. -/
structure Step where
  next : Nat
  range : Utf8.ByteRange
  state : Nat

/-- The place of a step by the hash FNV-1a of the state that it leads to and
of its range. -/
def Step.place (next : Nat) (range : Utf8.ByteRange) : Nat :=
  let mix (hash : UInt64) (n : Nat) : UInt64 := (hash ^^^ n.toUInt64) * 0x100000001b3
  (mix (mix (mix 0xcbf29ce484222325 next) range.1) range.2).toNat % 1000

/-- Adds the states of a sequence to those that there are; `next` is where the first of
its ranges leads to. -/
def addSequence (next : Nat) (states : Nat) (memory : Array (Option Step)) :
    List Utf8.ByteRange → Nat × Array (Option Step)
  | [] => (states, memory)
  | range :: sequence =>
      let place := Step.place next range
      let known := (memory.getD place none).filter fun step =>
        step.next = next && step.range == range
      match known with
      | some step => addSequence step.state states memory sequence
      | none =>
          addSequence states (states + 1)
            (memory.setIfInBounds place (some ⟨next, range, states⟩)) sequence

def growBackward (sequences : List (List Utf8.ByteRange)) : Growth :=
  let count := sequences.length
  .of fun weight =>
    let last := weight.states + 1
    let (states, _) := sequences.foldl (fun (states, memory) sequence =>
      addSequence last states memory sequence) (last + 1, Array.replicate 1000 none)
    { weight with states := states, branches := weight.branches + count }

/-- A set that holds not just one character. -/
def growBySet (direction : Direction) (s : CharSet) : Growth :=
  if s.isAscii then .fixed 2 s.length 0
  else
    let sequences := s.flatMap fun codes => Utf8.sequences codes.1 codes.2
    match direction with
    | .forward => growForward sequences
    | .backward => growBackward sequences

/-! Words, of which those that begin alike share the states of their beginnings. -/

/-- The words before each empty one and those after the last. -/
def splitAtEmpty : List (List Nat) → List (List (List Nat))
  | [] => [[]]
  | word :: rest =>
      if word.isEmpty then [] :: splitAtEmpty rest
      else
        match splitAtEmpty rest with
        | [] => [[word]]
        | chunk :: chunks => (word :: chunk) :: chunks

/-- The states from which the words lead to the end.  An empty word ends there, and comes
before those after it; ending there again where nothing was between is left out. -/
def weightOfWords : Nat → List (List Nat) → Weight
  | 0, _ => {}
  | bound + 1, words =>
      if words.all List.isEmpty then {}
      else
        let chunks := splitAtEmpty (words.dropWhile List.isEmpty)
        let ends := chunks.length - 1 + if words.head? = some [] then 1 else 0
        let full := chunks.filter (!·.isEmpty)
        full.foldl (fun weight chunk =>
          let branches := byHead (chunk.mergeSort fun a b => a.headD 0 ≤ b.headD 0)
          let ranges := if branches.length = 1 then 0 else branches.length
          branches.foldl (fun weight (_, rest) => weight.add (weightOfWords bound rest))
            (weight.add ⟨1, ranges, 1⟩)) ⟨1, 0, ends⟩

def growByWords (words : List (List Nat)) : Growth :=
  let weight := weightOfWords (sumOf List.length words) words
  .fixed (weight.states + 1) weight.ranges weight.branches

/-! Expressions. -/

/-- The characters of an expression that is one text and not the empty one. -/
def text? (r : Regex) : Option (List Char) :=
  match r.parts with
  | [] => none
  | parts => parts.mapM char?

/-- How many characters a match has at least; none if nothing matches. -/
def shortest? : Regex → Option Nat
  | .empty => some 0
  | .one s => if s.isEmpty then none else some 1
  | .edge _ => some 0
  | .append r s => do return (← r.shortest?) + (← s.shortest?)
  | .either r s => do return min (← r.shortest?) (← s.shortest?)
  | .times r least _ => r.shortest?.map (· * least)
  | .group r => r.shortest?

/-- Whether every match begins where the text does. -/
def fromStart : Regex → Bool
  | .edge e => e = .textStart
  | .append r s => r.fromStart || r.matchesOnlyEmpty && s.fromStart
  | .either r s => r.fromStart && s.fromStart
  | .times r least _ => 0 < least && r.fromStart
  | .group r => r.fromStart
  | _ => false

/-- Whether every match ends where the text does. -/
def toEnd : Regex → Bool
  | .edge e => e = .textEnd
  | .append r s => s.toEnd || s.matchesOnlyEmpty && r.toEnd
  | .either r s => r.toEnd && s.toEnd
  | .times r least _ => 0 < least && r.toEnd
  | .group r => r.toEnd
  | _ => false

/-- A repetition of what grows by `one`.  A loop around what can be empty takes more. -/
def growByTimes (canBeEmpty : Bool) (one : Growth) (least : Nat) : Option Nat → Growth
  | none =>
      if least = 0 then
        if canBeEmpty then .sequence [one, .fixed 3 0 4]
          else .sequence [.fixed 1 0 2, one]
      else .sequence [one.times least, .fixed 1 0 2]
  | some most =>
      if least = most then one.times least
      else if least = 0 ∧ most = 1 then .sequence [.fixed 1 0 2, one, .fixed 1 0 0]
      else
        .sequence [if least = 0 then .fixed 1 0 0 else one.times least, .fixed 1 0 0,
          (Growth.sequence [.fixed 1 0 2, one]).times (most - least)]

/-- The fork to some alternatives comes after the first two of them. -/
def growByChoice : List Growth → Growth
  | first :: second :: others =>
      .sequence (first :: second :: .fixed 2 0 (others.length + 2) :: others)
  | growths => .sequence growths

def inDirection {α : Type} (direction : Direction) (list : List α) : List α :=
  if direction = .forward then list else list.reverse

/-- The growth by an expression, or, if `among` holds, by each of its alternatives. -/
def growths (direction : Direction) (among : Bool) : Regex → List Growth
  | .either r s =>
      let both := r.growths direction true ++ s.growths direction true
      if among then both
      else
        match (alternatives (.either r s)).mapM text? with
        | none => [growByChoice both]
        | some texts => [growByWords (texts.map fun text =>
            inDirection direction (text.flatMap Utf8.encode))]
  | .empty => [.fixed 1 0 0]
  | .one s =>
      match s.only? with
      | some c => [.fixed c.utf8Size 0 0]
      | none => [growBySet direction s]
  | .edge _ => [.fixed 1 0 0]
  | .append r s =>
      [.sequence (inDirection direction
        [.sequence (r.growths direction false), .sequence (s.growths direction false)])]
  | .times r least most =>
      [growByTimes (r.shortest?.all (· = 0))
        (.sequence (r.growths direction false)) least most]
  | .group r =>
      match direction with
      | .forward =>
          [.sequence (.fixed 1 0 0 :: r.growths direction false ++ [.fixed 1 0 0])]
      | .backward => r.growths direction false

/-- The weight of a whole machine, which begins with a loop that skips what comes
before the match, unless every match is at that end of the text, and ends with a state
that accepts. -/
def weight (direction : Direction) (r : Regex) : Weight :=
  let anchored := match direction with
    | .forward => r.fromStart
    | .backward => r.toEnd
  let skip : Growth := if anchored then .fixed 1 0 0 else .fixed 3 1 2
  (Growth.sequence (skip :: (Regex.group r).growths direction false ++
    [.fixed 1 0 0])).grow {}

/-- Whether neither machine is too large. -/
def isLight (r : Regex) : Bool :=
  !(r.weight .forward).isOver && !(r.weight .backward).isOver

end JsonSelect.Regex
