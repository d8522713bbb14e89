import SchemaFilter.Pattern.Flaw
import SchemaFilter.Text.Blank

/-!
# Reading a pattern from the left

* `Pattern.Cursor` — a place in a pattern, with what is left to read;
* `Pattern.Cursor.skip` — passes over what has no meaning in verbose patterns;
* `Pattern.Cursor.collect` — the characters of one kind from a place on.
-/

namespace SchemaFilter.Pattern

/-- A place in a pattern: how many characters have been read, and those that are left. -/
structure Cursor where
  pos : Nat
  rest : List Char
  deriving DecidableEq, Repr

/-- A pattern or a part of it may be refused. -/
abbrev Reading (α : Type) := Except Defect α

/-- Refuses the pattern. -/
def refuse {α : Type} (flaw : Flaw) (start stop : Nat) : Reading α :=
  .error ⟨flaw, ⟨start, stop⟩⟩

namespace Cursor

/-- The place before a pattern. -/
def start (pattern : List Char) : Cursor := ⟨0, pattern⟩

/-- The place behind the next character. -/
def next (c : Cursor) : Cursor :=
  match c.rest with
  | [] => c
  | _ :: rest => ⟨c.pos + 1, rest⟩

/-- The next character. -/
def peek? (c : Cursor) : Option Char := c.rest.head?

/-- Is everything read? -/
def atEnd (c : Cursor) : Bool := c.rest.isEmpty

/-- The span of the next character. -/
def charSpan (c : Cursor) : Span := ⟨c.pos, c.pos + 1⟩

/-- Passes over blanks and over comments, which run from `#` to the end of the line. -/
def skipFrom (pos : Nat) (inComment : Bool) : List Char → Cursor
  | [] => ⟨pos, []⟩
  | x :: xs =>
    if inComment then skipFrom (pos + 1) (x ≠ '\n') xs
    else if isBlank x then skipFrom (pos + 1) false xs
    else if x = '#' then skipFrom (pos + 1) true xs
    else ⟨pos, x :: xs⟩

/-- Passes over blanks and comments where the pattern is verbose. -/
def skip (verbose : Bool) (c : Cursor) : Cursor :=
  if verbose then skipFrom c.pos false c.rest else c

/-- The place behind the next character, and behind the blanks and comments after it where the
    pattern is verbose. -/
def advance (verbose : Bool) (c : Cursor) : Cursor :=
  c.next.skip verbose

/-- The place behind a fixed text. -/
def past? (c : Cursor) (text : String) : Option Cursor :=
  if text.toList.isPrefixOf c.rest then
    some ⟨c.pos + text.length, c.rest.drop text.length⟩
  else none

/-- `collect`, for at most `limit` characters. -/
def collectUpTo (verbose : Bool) (p : Char → Bool) : (limit : Nat) → Cursor → List Char × Cursor
  | 0, c => ([], c)
  | limit + 1, c =>
    match c.peek? with
    | none => ([], c)
    | some x =>
      if p x then
        let (xs, c) := collectUpTo verbose p limit (c.advance verbose)
        (x :: xs, c)
      else ([], c)

/-- The characters with a property, from here up to the first that has it not. -/
def collect (verbose : Bool) (p : Char → Bool) (c : Cursor) : List Char × Cursor :=
  collectUpTo verbose p c.rest.length c

end Cursor

end SchemaFilter.Pattern
