import SchemaFilter.Pattern.Cursor
import SchemaFilter.Pattern.Syntax

/-!
# Counted repetitions

How often a part is repeated, as `{n}`, `{n,}` or `{n,m}`, with blanks around the numbers and a
question mark behind the brace, which asks for few repetitions rather than many.  That changes the
order of the matches found and not whether there is one.

* `Pattern.readDecimal` — reads a number;
* `Pattern.readCount` — reads the repetition from its opening to its closing brace.
-/

namespace SchemaFilter.Pattern

/-- The greatest number that a repetition may name. -/
def maxCount : Nat := 4294967295

/-- The number that decimal digits spell. -/
def decimalNumber (digits : List Char) : Nat :=
  digits.foldl (fun n c => 10 * n + (c.toNat - 48)) 0

/-- Reads a number with the blanks around it.  Where it stops does not depend on whether the number
    is good. -/
def readDecimal (verbose : Bool) (c : Cursor) : Reading Nat × Cursor :=
  let (_, first) := c.collect false isBlank
  let (digits, c) := first.collect verbose Char.isDigit
  let (_, after) := c.collect verbose isBlank
  if digits = [] then (refuse .countEmpty first.pos c.pos, after)
  else if maxCount < decimalNumber digits then (refuse .decimalInvalid first.pos c.pos, after)
  else (.ok (decimalNumber digits), after)

/-- Is there a number of repetitions that the count admits? -/
def Count.isValid (count : Count) : Bool :=
  match count.most with
  | none => true
  | some most => count.least ≤ most

/-- Reads the numbers between braces, up to the closing brace.  The opening brace is at `start`. -/
def readCountBody (verbose : Bool) (start : Nat) (c : Cursor) : Reading (Count × Cursor) := do
  let (least, c) := readDecimal verbose c
  match c.peek? with
  | none => refuse .countUnclosed start c.pos
  | some ',' =>
    let c := c.advance verbose
    match c.peek? with
    | none => refuse .countUnclosed start c.pos
    | some '}' => return ({ least := ← least, most := none }, c)
    | some _ =>
      let least ← least
      let (most, c) := readDecimal verbose c
      return ({ least, most := some (← most) }, c)
  | some _ =>
    let least ← least
    return ({ least, most := some least }, c)

/-- A count with the question mark that may stand behind it. -/
def Count.orLazy (count : Count) (c : Cursor) : Count × Cursor :=
  if c.peek? = some '?' then ({ count with isLazy := true }, c.next) else (count, c)

/-- Reads a counted repetition, from its opening brace on. -/
def readCount (verbose : Bool) (brace : Cursor) : Reading (Count × Cursor) := do
  let start := brace.pos
  let c := brace.advance verbose
  if c.atEnd then refuse .countUnclosed start c.pos
  else
    let (count, c) ← readCountBody verbose start c
    if c.peek? ≠ some '}' then refuse .countUnclosed start c.pos
    else
      let (count, c) := count.orLazy (c.advance verbose)
      if count.isValid then return (count, c) else refuse .countInvalid start c.pos

end SchemaFilter.Pattern
