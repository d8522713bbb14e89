import SchemaFilter.Pattern.Expr
import SchemaFilter.Pattern.WordStates

/-!
# Patterns that are too large

A pattern is searched for by two automata over the UTF-8 bytes of a text.  One reads forward to find
where a match ends, and notes where groups begin and end; the other reads backward to find where
the match begins.  A pattern is too large if either becomes too large.

* `Pattern.Expr.build` — builds the states for an expression;
* `Pattern.Expr.automaton` — the whole automaton for an expression;
* `Pattern.Expr.isTooLarge` — is a pattern too large?
-/

namespace SchemaFilter.Pattern

/-! ### Expressions -/

/-- The room for two ways. -/
def forkRoom : Nat := 2 * waySize

/-- Adds the states for a repetition, given the step for its body.  Each repetition that may be left
    out has a fork before it; a repetition without bound has one behind it. -/
def addTimes (count : Count) (bodyMayBeEmpty : Bool) (body : Step) : Step := fun b => do
  match count.least, count.most with
  | 0, none =>
    if bodyMayBeEmpty then addStates [forkRoom, forkRoom, 0] (← body b)
    else body (← addState forkRoom b)
  | least, none => addState forkRoom (← repeatStep body least b)
  | 0, some 1 => addState 0 (← body (← addState forkRoom b))
  | least, some most =>
    let b ← if least = 0 then addState 0 b else repeatStep body least b
    if least = most then return b
    else
      let optional : Step := fun b => do body (← addState forkRoom b)
      repeatStep optional (most - least) (← addState 0 b)

/-- Joins an alternative to `before` others: the second with the states where the choice begins and
    ends, a later one with one more way. -/
def joinAlternative : (before : Nat) → Step
  | 0 => some
  | 1 => addStates [forkRoom, 0]
  | _ => grow waySize

/-- Builds the states for an expression that is an alternative to `before` others.  Only forward are
    there states for groups. -/
def Expr.build (direction : Direction) : Expr → (before : Nat) → Step
  | alt first others, before, b => do
    others.build direction (before + 1)
      (← joinAlternative before (← first.build direction 0 b))
  | empty, before, b | look _, before, b => do joinAlternative before (← addState 0 b)
  | literal text, before, b => do
    joinAlternative before (← addStates ((encode text).map fun _ => 0) b)
  | words texts, before, b => do joinAlternative before (← addWords direction texts b)
  | set members, before, b => do joinAlternative before (← addSet direction members b)
  | group _ body, before, b => do
    let b ← match direction with
      | .forward => addState 0 (← body.build direction 0 (← addState 0 b))
      | .backward => body.build direction 0 b
    joinAlternative before b
  | seq first second, before, b => do
    let b ← match direction with
      | .forward => second.build direction 0 (← first.build direction 0 b)
      | .backward => first.build direction 0 (← second.build direction 0 b)
    joinAlternative before b
  | times count body, before, b => do
    let mayBeEmpty := !body.shortest?.any (0 < ·)
    joinAlternative before (← addTimes count mayBeEmpty (body.build direction 0) b)

/-! ### Whole automata -/

/-- Does every match begin at the start of the text? -/
def Expr.isAtStart : Expr → Bool
  | look condition => condition = .textStart
  | empty | literal _ | words _ | set _ => false
  | group _ body => body.isAtStart
  | seq a b => a.isAtStart || (a.isZeroWidth && b.isAtStart)
  | alt a b => a.isAtStart && b.isAtStart
  | times count body => 0 < count.least && body.isAtStart

/-- Does every match end at the end of the text? -/
def Expr.isAtEnd : Expr → Bool
  | look condition => condition = .textEnd
  | empty | literal _ | words _ | set _ => false
  | group _ body => body.isAtEnd
  | seq a b => b.isAtEnd || (b.isZeroWidth && a.isAtEnd)
  | alt a b => a.isAtEnd && b.isAtEnd
  | times count body => 0 < count.least && body.isAtEnd

/-- Adds the states that pass over the bytes before a match, unless there are none. -/
def addPass (isAnchored : Bool) : Step :=
  if isAnchored then addState 0 else addStates [forkRoom, 0, rangeSize]

/-- The automaton for an expression, unless it is too large.  Forward, the whole match is a
    group. -/
def Expr.automaton (e : Expr) (direction : Direction) : Option Builder := do
  match direction with
  | .forward =>
    addState 0 (← (group 0 e).build .forward 0 (← addPass e.isAtStart {}))
  | .backward => addState 0 (← e.build .backward 0 (← addPass e.isAtEnd {}))

/-- The number of words from which on a choice between them is searched for without automata. -/
def manyWords : Nat := 3000

/-- Is a pattern too large? -/
def Expr.isTooLarge (e : Expr) : Bool :=
  match e with
  | words texts => texts.length < manyWords && lacksAutomaton
  | _ => lacksAutomaton
where
  /-- Is one of the automata too large? -/
  lacksAutomaton : Bool := (e.automaton .forward).isNone || (e.automaton .backward).isNone

end SchemaFilter.Pattern
