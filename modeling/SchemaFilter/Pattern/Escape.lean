import SchemaFilter.Pattern.Cursor
import SchemaFilter.Pattern.Syntax
import SchemaFilter.Text.Split

/-!
# Escapes

What a backslash and the characters after it stand for.

* `Pattern.Primitive` — the parts of a pattern that hold no other parts;
* `Pattern.readEscape` — reads an escape;
* `Pattern.readHex`, `Pattern.readProperty`, `Pattern.readBoundaryName?` — the escapes of more
  than one letter.
-/

namespace SchemaFilter.Pattern

/-- A part of a pattern that holds no other parts. -/
inductive Primitive where
  | literal (l : Literal)
  | assertion (span : Span) (kind : Assertion)
  | shorthand (span : Span) (negated : Bool) (kind : Shorthand)
  | property (span : Span) (negated : Bool) (query : PropertyQuery)
  deriving DecidableEq, Repr

namespace Primitive

/-- The place of a part. -/
def span : Primitive → Span
  | literal l => l.span
  | assertion span .. | shorthand span .. | property span .. => span

/-- The part as a pattern. -/
def node : Primitive → Node
  | literal l => .literal l
  | assertion span kind => .assertion span kind
  | shorthand span negated kind => .shorthand span negated kind
  | property span negated query => .property span negated query

/-- The part as an item of a class.  A class holds characters, and an assertion stands for none. -/
def classItem : Primitive → Reading ClassNode
  | literal l => .ok (.literal l)
  | assertion span _ => .error ⟨.classEscapeInvalid, span⟩
  | shorthand span negated kind => .ok (.shorthand span negated kind)
  | property span negated query => .ok (.property span negated query)

/-- The part as an end of a range. -/
def rangeEnd : Primitive → Reading Literal
  | literal l => .ok l
  | p => .error ⟨.classRangeNotLiteral, p.span⟩

end Primitive

/-! ### Characters by number -/

/-- Is a character a hexadecimal digit? -/
def isHexDigit (c : Char) : Bool :=
  (CharSet.hexValue? c).isSome

/-- The number that hexadecimal digits spell. -/
def hexNumber (digits : List Char) : Nat :=
  digits.foldl (fun n c => 16 * n + (CharSet.hexValue? c).getD 0) 0

/-- The character with a number. -/
def scalar? (n : Nat) : Option Char :=
  if n.isValidChar then some (Char.ofNat n) else none

/-- Reads a fixed count of hexadecimal digits. -/
def readHexDigits (verbose : Bool) : (count : Nat) → Cursor → Reading (List Char × Cursor)
  | 0, c => .ok ([], c)
  | count + 1, c =>
    match c.peek? with
    | none => refuse .escapeUnfinished c.pos c.pos
    | some x =>
      if isHexDigit x then do
        let (digits, c) ← readHexDigits verbose count (c.advance verbose)
        return (x :: digits, c)
      else refuse .hexInvalidDigit c.pos (c.pos + 1)

/-- Reads hexadecimal digits in braces, from the opening brace on. -/
def readHexBraced (verbose : Bool) (start : Nat) (brace : Cursor) :
    Reading (Literal × Cursor) := do
  let (digits, close) := (brace.advance verbose).collect verbose isHexDigit
  match close.peek? with
  | none => refuse .escapeUnfinished brace.pos close.pos
  | some '}' =>
    let c := close.advance verbose
    if digits = [] then refuse .hexEmpty brace.pos c.pos
    else
      match scalar? (hexNumber digits) with
      | none => refuse .hexNotAScalar (brace.pos + 1) close.pos
      | some x => .ok ({ span := ⟨start, c.pos⟩, char := x }, c)
  | some _ => refuse .hexInvalidDigit close.pos (close.pos + 1)

/-- Reads what follows the letter of an escape by number, which takes `count` digits if there are
    no braces.  The escape begins at `start`, and the cursor is at the letter. -/
def readHex (verbose : Bool) (start count : Nat) (letter : Cursor) :
    Reading (Literal × Cursor) := do
  let first := letter.advance verbose
  if first.peek? = some '{' then readHexBraced verbose start first
  else
    let (digits, c) ← readHexDigits verbose count first
    match scalar? (hexNumber digits) with
    | none => refuse .hexNotAScalar first.pos c.pos
    | some x => .ok ({ span := ⟨start, c.pos⟩, char := x, isByte := count = 2 }, c)

/-! ### Classes by the name of a property -/

/-- The query between braces, and whether it asks for the other characters. -/
def queryOfBraced (text : List Char) : PropertyQuery × Bool :=
  match cutAt? "!=".toList text with
  | some (name, value) => (.valued (.ofList name) (.ofList value), true)
  | none =>
    match (cutAt? ":".toList text).or (cutAt? "=".toList text) with
    | some (name, value) => (.valued (.ofList name) (.ofList value), false)
    | none => (.named (.ofList text), false)

/-- Reads what follows `\p` or `\P`.  The escape begins at `start`, and the cursor is at the
    letter. -/
def readProperty (verbose : Bool) (start : Nat) (negated : Bool) (letter : Cursor) :
    Reading (Primitive × Cursor) := do
  let first := letter.advance verbose
  match first.peek? with
  | none => refuse .escapeUnfinished first.pos first.pos
  | some '{' =>
    let (text, close) := (first.advance verbose).collect verbose (· ≠ '}')
    if close.atEnd then refuse .escapeUnfinished close.pos close.pos
    else
      let (query, others) := queryOfBraced text
      let c := close.next
      .ok (.property ⟨start, c.pos⟩ (negated != others) query, c)
  | some '\\' => refuse .propertyInvalid first.pos (first.pos + 1)
  | some x =>
    let c := first.advance verbose
    .ok (.property ⟨start, c.pos⟩ negated (.named (.singleton x)), c)

/-! ### Word boundaries by name -/

/-- Is a character a letter or a hyphen, as in the names of word boundaries? -/
def isBoundaryNameChar (c : Char) : Bool :=
  c.isAlpha || c == '-'

/-- The word boundary with a name. -/
def Assertion.ofBoundaryName? (name : List Char) : Option Assertion :=
  if name = "start".toList then some .wordStart
  else if name = "end".toList then some .wordEnd
  else if name = "start-half".toList then some .wordStartHalf
  else if name = "end-half".toList then some .wordEndHalf
  else none

/-- Reads the name in braces after `\b`, if it is one and not a count.  The escape begins at
    `start`, and the cursor is at the opening brace. -/
def readBoundaryName? (verbose : Bool) (start : Nat) (brace : Cursor) :
    Reading (Option (Assertion × Cursor)) := do
  let first := brace.advance verbose
  match first.peek? with
  | none => refuse .wordBoundaryUnfinished start first.pos
  | some x =>
    if isBoundaryNameChar x then
      let (name, close) := first.collect verbose isBoundaryNameChar
      if close.peek? ≠ some '}' then refuse .wordBoundaryUnclosed brace.pos close.pos
      else
        match Assertion.ofBoundaryName? name with
        | none => refuse .wordBoundaryUnrecognized first.pos close.pos
        | some kind => .ok (some (kind, close.next))
    else .ok none

/-! ### All escapes -/

/-- The class that one letter names, and whether it holds the other characters. -/
def Shorthand.ofLetter? : Char → Option (Bool × Shorthand)
  | 'd' => some (false, .digit)
  | 's' => some (false, .space)
  | 'w' => some (false, .word)
  | 'D' => some (true, .digit)
  | 'S' => some (true, .space)
  | 'W' => some (true, .word)
  | _ => none

/-- The characters that stand for themselves after a backslash: the ASCII characters that are not
    letters, digits, `<` or `>`. -/
def isEscapable (c : Char) : Bool :=
  c.toNat < 128 && !c.isAlphanum && c != '<' && c != '>'

/-- The control character that one letter names. -/
def controlOfLetter? : Char → Option Char
  | 'a' => some '\x07'
  | 'f' => some '\x0C'
  | 't' => some '\t'
  | 'n' => some '\n'
  | 'r' => some '\r'
  | 'v' => some '\x0B'
  | _ => none

/-- The assertion that one letter or angle bracket names. -/
def Assertion.ofLetter? : Char → Option Assertion
  | 'A' => some .textStart
  | 'z' => some .textEnd
  | 'b' => some .wordBoundary
  | 'B' => some .notWordBoundary
  | '<' => some .wordStart
  | '>' => some .wordEnd
  | _ => none

/-- Reads an escape of one character, which the cursor is at.  The escape begins at `start`. -/
def readShortEscape (verbose : Bool) (start : Nat) (x : Char) (c : Cursor) :
    Reading (Primitive × Cursor) := do
  let after := c.next
  let span : Span := ⟨start, after.pos⟩
  if isEscapable x then .ok (.literal { span, char := x }, after)
  else if let some control := controlOfLetter? x then
    .ok (.literal { span, char := control }, after)
  else if x = 'b' && after.peek? = some '{' then
    match ← readBoundaryName? verbose start after with
    | none => .ok (.assertion span .wordBoundary, after)
    | some (kind, after) => .ok (.assertion ⟨start, after.pos⟩ kind, after)
  else
    match Assertion.ofLetter? x with
    | some kind => .ok (.assertion span kind, after)
    | none => .error ⟨.escapeUnrecognized, span⟩

/-- Reads an escape, from the backslash on. -/
def readEscape (verbose : Bool) (backslash : Cursor) : Reading (Primitive × Cursor) := do
  let start := backslash.pos
  let c := backslash.next
  match c.peek? with
  | none => refuse .escapeUnfinished start c.pos
  | some x =>
    if x.isDigit then refuse .backreference start (c.pos + 1)
    else if let some count := [('x', 2), ('u', 4), ('U', 8)].lookup x then
      let (l, c) ← readHex verbose start count c
      return (.literal l, c)
    else if x = 'p' || x = 'P' then readProperty verbose start (x = 'P') c
    else if let some (negated, kind) := Shorthand.ofLetter? x then
      return (.shorthand ⟨start, c.pos + 1⟩ negated kind, c.next)
    else readShortEscape verbose start x c

end SchemaFilter.Pattern
