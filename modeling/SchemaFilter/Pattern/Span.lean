/-!
# Places in a pattern

* `Pattern.Span` — the characters of a pattern from one offset up to another;
* `Pattern.Place` — an offset as a line and a column.
-/

namespace SchemaFilter.Pattern

/-- The characters from offset `start` up to, and without, offset `stop`. -/
structure Span where
  start : Nat
  stop : Nat
  deriving DecidableEq, Repr

/-- The span of no characters at an offset. -/
def Span.at (offset : Nat) : Span := ⟨offset, offset⟩

/-- A line of a pattern and a column in it, both counted from 0. -/
structure Place where
  line : Nat
  column : Nat
  deriving DecidableEq, Repr

/-- The place of an offset. -/
def Place.ofOffset (pattern : List Char) (offset : Nat) : Place :=
  (pattern.take offset).foldl
    (fun p c => if c = '\n' then ⟨p.line + 1, 0⟩ else ⟨p.line, p.column + 1⟩) ⟨0, 0⟩

end SchemaFilter.Pattern
