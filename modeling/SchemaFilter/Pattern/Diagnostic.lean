import SchemaFilter.Pattern.Flaw

/-!
# Showing where a pattern is wrong

A diagnostic shows the pattern with carets below the characters at fault, and then says what is
wrong.  A pattern of one line is indented by four columns.  The lines of a longer one are numbered
and stand between two rules.

* `Pattern.shownLines` — the lines of a pattern;
* `Pattern.marks` — the carets below one line;
* `Pattern.Defect.render` — the whole diagnostic.
-/

namespace SchemaFilter.Pattern

/-- The lines of a pattern, given the line being read, the last character first.  A final line
    end begins no line, and a carriage return before a line end does not show. -/
def linesFrom (line : List Char) : List Char → List (List Char)
  | [] => if line = [] then [] else [line.reverse]
  | '\n' :: cs =>
    (match line with
      | '\r' :: rest => rest.reverse
      | _ => line.reverse) :: linesFrom [] cs
  | c :: cs => linesFrom (c :: line) cs

/-- The lines of a pattern. -/
def shownLines (pattern : List Char) : List (List Char) :=
  linesFrom [] pattern

/-- A span in a line: the column where it begins and the column where it ends. -/
structure Mark where
  start : Nat
  stop : Nat
  deriving DecidableEq, Repr

/-- Carets below the spans of a line, from a column on.  A span gets one caret at least. -/
def carets : (column : Nat) → List Mark → List Char
  | _, [] => []
  | column, m :: ms =>
    let gap := m.start - column
    let width := max 1 (m.stop - m.start)
    List.replicate gap ' ' ++ List.replicate width '^' ++ carets (column + gap + width) ms

/-- A span as the lines and columns of its two ends. -/
structure PlacedSpan where
  start : Place
  stop : Place
  deriving DecidableEq, Repr

/-- The ends of a span as lines and columns. -/
def PlacedSpan.ofSpan (pattern : List Char) (s : Span) : PlacedSpan :=
  ⟨.ofOffset pattern s.start, .ofOffset pattern s.stop⟩

/-- Does a span end on the line it begins on? -/
def PlacedSpan.inOneLine (s : PlacedSpan) : Bool :=
  s.start.line == s.stop.line

/-- The spans of a defect, from the left to the right. -/
def Defect.spans (pattern : List Char) (d : Defect) : List PlacedSpan :=
  let spans :=
    match d.flaw.earlier with
    | none => [d.span]
    | some first => if first.start ≤ d.span.start then [first, d.span] else [d.span, first]
  spans.map (.ofSpan pattern)

/-- The marks that belong to one line. -/
def marks (spans : List PlacedSpan) (line : Nat) : List Mark :=
  (spans.filter fun s => s.inOneLine && s.start.line == line).map fun s =>
    ⟨s.start.column, s.stop.column⟩

/-- A text with spaces in front up to a width. -/
def padLeft (width : Nat) (text : List Char) : List Char :=
  List.replicate (width - text.length) ' ' ++ text

/-- A line of the pattern, after `label`, and below it its marks. -/
def notated (label : List Char) (marks : List Mark) (line : List Char) : List Char :=
  label ++ line ++ ['\n'] ++
    (if marks = [] then []
    else List.replicate label.length ' ' ++ carets 0 marks ++ ['\n'])

/-- The notated lines of a pattern, from a line number on.  No number shows where `width` is 0. -/
def notatedLines (spans : List PlacedSpan) (width : Nat) : Nat → List (List Char) → List Char
  | _, [] => []
  | n, line :: lines =>
    let label :=
      if width = 0 then "    ".toList
      else padLeft width (toString (n + 1)).toList ++ ": ".toList
    notated label (marks spans n) line ++ notatedLines spans width (n + 1) lines

/-- Where a span that runs over several lines begins and ends. -/
def PlacedSpan.note (s : PlacedSpan) : String :=
  s!"on line {s.start.line + 1} (column {s.start.column + 1}) " ++
    s!"through line {s.stop.line + 1} (column {s.stop.column})"

/-- The diagnostic of a defect. -/
def Defect.render (pattern : List Char) (d : Defect) : String :=
  let spans := d.spans pattern
  let lines := shownLines pattern
  let count := lines.length + (if pattern.getLast? = some '\n' then 1 else 0)
  let width := if count ≤ 1 then 0 else (toString count).length
  let body := notatedLines spans width 0 lines
  let rule := List.replicate 79 '~' ++ ['\n']
  let notes := (spans.filter (!·.inOneLine)).map fun s => s.note.toList ++ ['\n']
  .ofList <|
    "regex parse error:\n".toList ++
      (if pattern.contains '\n' then rule ++ body ++ rule ++ notes.flatten else body) ++
      "error: ".toList ++ d.flaw.text.toList

end SchemaFilter.Pattern
