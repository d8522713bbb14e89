import SchemaFilter.Pattern.Builder
import SchemaFilter.Unicode.ByteRange

/-!
# The states for sets of characters

The automaton for a set of characters reads the bytes of one character, forward or backward.

* `Pattern.Direction` — the direction in which an automaton reads;
* `Pattern.jointStates` — the states that read forward: what reads the same is one state;
* `Pattern.addSequences` — the states that read backward: sequences that begin alike share the
  states for their beginnings, which are read last;
* `Pattern.addSet` — adds the states for a set.
-/

namespace SchemaFilter.Pattern

/-- The direction in which an automaton reads. -/
inductive Direction where
  | forward
  | backward
  deriving DecidableEq, Repr

/-! ### Forward -/

/-- What follows each byte range that some sequences begin with.  Sequences with a common beginning
    are neighbours. -/
def following (sequences : List ByteRanges) : List (List ByteRanges) :=
  (sequences.splitBy fun a b => a.head? == b.head?).map fun group => group.map List.tail

/-- The states for some sequences of at most `length` ranges.  A state is given by the sequences
    that it reads. -/
def jointStates : (length : Nat) → List ByteRanges → List (List ByteRanges)
  | 0, _ => []
  | length + 1, sequences =>
    if sequences.all (·.isEmpty) then []
    else sequences :: (following sequences).flatMap (jointStates length)

/-! ### Backward -/

/-- A state that reads a byte from a range.  It is known by its slot until another state takes the
    slot. -/
structure SharedState where
  range : CodeRange
  number : Nat
  slot : Nat
  isKnown : Bool := true
  deriving DecidableEq, Repr

/-- Mixes a number into a hash. -/
def mixHash (hash : UInt64) (n : Nat) : UInt64 :=
  (hash ^^^ UInt64.ofNat n) * 1099511628211

/-- The slot, one of a thousand, of a state that reads a byte from a range and leads to another
    state. -/
def slotOf (target : Nat) (range : CodeRange) : Nat :=
  (mixHash (mixHash (mixHash 14695981039346656037 target) range.lo) range.hi).toNat % 1000

/-- The states for the sequence before that can be used for a sequence, and what of the sequence is
    left, with the state that it leads to. -/
def knownStates : (before : List SharedState) → (target : Nat) → ByteRanges →
    List SharedState × Nat × ByteRanges
  | s :: before, target, r :: rs =>
    if s.isKnown && s.range = r then
      let (known, target, rest) := knownStates before s.number rs
      (s :: known, target, rest)
    else ([], target, r :: rs)
  | _, target, rs => ([], target, rs)

/-- Adds the states for a sequence, behind the known ones. -/
def addSequence : (known : List SharedState) → (target : Nat) → ByteRanges → Builder →
    Option (List SharedState × Builder)
  | known, _, [], b => some (known, b)
  | known, target, r :: rs, b => do
    let new : SharedState := { range := r, number := b.states, slot := slotOf target r }
    let known := known.map fun s => { s with isKnown := s.isKnown && s.slot ≠ new.slot }
    addSequence (known ++ [new]) new.number rs (← addState 0 b)

/-- Adds the states for some sequences, given those for the sequence before, and a way to each. -/
def addSequences (target : Nat) : (before : List SharedState) → List ByteRanges → Step
  | _, [], b => some b
  | before, s :: ss, b => do
    let (known, next, rest) := knownStates before target s
    let (states, b) ← addSequence known next rest b
    addSequences target states ss (← grow waySize b)

/-! ### Both -/

/-- Adds the states for a set of characters. -/
def addSet (direction : Direction) (set : CharSet) : Step := fun b =>
  if set.isAscii then addStates [0, rangeSize * set.ranges.length] b
  else
    match direction with
    | .forward =>
      let states := (jointStates 4 set.encodings).eraseDups
      addStates (0 :: states.map fun state => rangeSize * (following state).length) b
    | .backward => do addSequences (b.states + 1) [] set.encodings (← addStates [0, 0] b)

end SchemaFilter.Pattern
