import SchemaFilter.Pattern.SetStates
import SchemaFilter.Text.Utf8

/-!
# The states for a choice between words

The automaton for a choice between words is a tree, which reads the common beginning of words once.
Where a word ends before others, the words that come before it are preferred to it, and it is
preferred to those that come behind it; so they are kept apart.

* `Pattern.splitAtEnds` — the words from a state on, split at those that end there;
* `Pattern.wordRooms` — what the states of the tree take besides;
* `Pattern.addWords` — adds the states for a choice between words.
-/

namespace SchemaFilter.Pattern

/-- Splits the words that a state reads at those that end there. -/
def splitAtEnds : List Bytes → List (List Bytes)
  | [] => [[]]
  | [] :: words => [] :: splitAtEnds words
  | word :: words =>
    match splitAtEnds words with
    | [] => [[word]]
    | first :: others => (word :: first) :: others

/-- Leaves out all but one of the words that come first and end at once. -/
def dropRepeatedEnds : List Bytes → List Bytes
  | [] :: [] :: words => dropRepeatedEnds ([] :: words)
  | words => words

/-- What follows each first byte of some words. -/
def behindFirst (words : List Bytes) : List (List Bytes) :=
  (words.filterMap List.head?).eraseDups.map fun b =>
    words.filterMap fun word => if word.head? = some b then some word.tail else none

/-- What the states of the tree for some words of at most `length` bytes take besides.  Words that
    end at once need no state. -/
def wordRooms : (length : Nat) → List Bytes → List Nat
  | 0, _ => []
  | length + 1, words =>
    if words.all (·.isEmpty) then []
    else
      let chunks := splitAtEnds (dropRepeatedEnds words)
      let switches := (chunks.map behindFirst).filter (!·.isEmpty)
      let ways := switches.length + (chunks.length - 1)
      let rooms := switches.flatMap fun next =>
        (if next.length = 1 then 0 else rangeSize * next.length) ::
          next.flatMap (wordRooms length)
      waySize * ways :: rooms

/-- Adds the states for a choice between words. -/
def addWords (direction : Direction) (texts : List (List Char)) : Step :=
  let words := texts.map encode
  let words := match direction with
    | .forward => words
    | .backward => words.map List.reverse
  addStates (0 :: wordRooms ((words.map List.length).foldl max 0) words)

end SchemaFilter.Pattern
