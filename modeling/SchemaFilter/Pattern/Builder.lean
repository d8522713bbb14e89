/-!
# Automata under construction

A pattern is searched for by automata.  Of an automaton only its size is kept here: the number of
its states, and the memory that they take.

* `Pattern.Builder` — an automaton under construction;
* `Pattern.Step` — a step of the construction, which fails when the automaton becomes too large;
* `Pattern.addState`, `Pattern.addStates` — the steps that add states;
* `Pattern.repeatStep` — a step taken several times.
-/

namespace SchemaFilter.Pattern

/-- The greatest size that an automaton may have. -/
def sizeLimit : Nat := 10485760

/-- The size of a state that reads a byte from one range, or none. -/
def stateSize : Nat := 32

/-- What a state takes besides for each of the ways that it chooses from without reading a byte. -/
def waySize : Nat := 4

/-- What a state takes besides for each of several ranges that it reads a byte from. -/
def rangeSize : Nat := 8

/-- An automaton under construction.  States are numbered from 0 in the order of their making. -/
structure Builder where
  states : Nat := 0
  size : Nat := 0
  deriving DecidableEq, Repr

/-- A step of the construction, which fails when the automaton becomes too large. -/
abbrev Step := Builder → Option Builder

/-- Gives more room to a state. -/
def grow (room : Nat) : Step := fun b =>
  let size := b.size + room
  if sizeLimit < size then none else some { b with size }

/-- Adds a state that takes some room besides. -/
def addState (room : Nat) : Step := fun b =>
  grow (stateSize + room) { b with states := b.states + 1 }

/-- Adds states that take some room besides. -/
def addStates : (rooms : List Nat) → Step
  | [], b => some b
  | room :: rooms, b => do addStates rooms (← addState room b)

/-- Takes a step `count` times. -/
def repeatStep (step : Step) : (count : Nat) → Step
  | 0, b => some b
  | count + 1, b => do repeatStep step count (← step b)

end SchemaFilter.Pattern
