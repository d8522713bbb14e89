import SchemaFilter.Pattern.Cursor
import SchemaFilter.Pattern.Syntax
import SchemaFilter.Text.Word

/-!
# The beginnings of groups

* `Pattern.GroupName` — the name of a group, with its place;
* `Pattern.readFlags` — reads the flags after `(?`;
* `Pattern.Opening` — what an opening parenthesis begins;
* `Pattern.readOpening` — reads it.
-/

namespace SchemaFilter.Pattern

/-- The name of a group. -/
structure GroupName where
  name : List Char
  span : Span
  deriving DecidableEq, Repr

/-- What an opening parenthesis begins: a group that is remembered, perhaps with a name; a group
    that is not, with flags of its own; or nothing but a change of flags for what follows. -/
inductive Opening where
  | capture (name : Option GroupName)
  | group (settings : List FlagSetting)
  | flags (settings : List FlagSetting)
  deriving DecidableEq, Repr

/-! ### Names -/

/-- May a character stand in the name of a group? -/
def isNameChar (first : Bool) (c : Char) : Bool :=
  if first then c == '_' || isLetter c
  else c == '_' || c == '.' || c == '[' || c == ']' || isLetterOrDigit c

/-- Reads a name up to the `>` behind it. -/
def readName (c : Cursor) : Reading (GroupName × Cursor) := do
  let start := c.pos
  let (head, c) :=
    match c.peek? with
    | some x => if isNameChar true x then ([x], c.next) else ([], c)
    | none => ([], c)
  let (tail, c) := if head = [] then ([], c) else c.collect false (isNameChar false)
  match c.peek? with
  | none => refuse .groupNameUnfinished c.pos c.pos
  | some '>' =>
    if head = [] then refuse .groupNameEmpty start start
    else return (⟨head ++ tail, ⟨start, c.pos⟩⟩, c.next)
  | some _ => refuse .groupNameInvalid c.pos (c.pos + 1)

/-! ### Flags -/

/-- The flag with a letter. -/
def Flag.ofLetter? : Char → Option Flag
  | 'i' => some .caseInsensitive
  | 'm' => some .multiLine
  | 's' => some .dotMatchesNewLine
  | 'U' => some .swapGreed
  | 'u' => some .unicode
  | 'R' => some .crlf
  | 'x' => some .ignoreWhitespace
  | _ => none

/-- The flags read so far, the last first, each with its place, and the place of the minus sign
    that switches flags off. -/
structure FlagReader where
  flags : List (Flag × Span × Bool) := []
  minus : Option Span := none

namespace FlagReader

/-- The settings read so far. -/
def settings (r : FlagReader) : List FlagSetting :=
  r.flags.reverse.map fun (flag, _, enabled) => ⟨flag, enabled⟩

/-- Reads one character among flags. -/
def read (r : FlagReader) (x : Char) (span : Span) : Reading FlagReader :=
  if x = '-' then
    match r.minus with
    | none => .ok { r with minus := some span }
    | some first => .error ⟨.flagRepeatedNegation first, span⟩
  else
    match Flag.ofLetter? x with
    | none => .error ⟨.flagUnrecognized, span⟩
    | some flag =>
      match r.flags.lookup flag with
      | some (first, _) => .error ⟨.flagDuplicate first, span⟩
      | none => .ok { r with flags := (flag, span, r.minus.isNone) :: r.flags }

/-- Has a minus sign been read at offset `pos`? -/
def minusAt (r : FlagReader) (pos : Nat) : Bool :=
  r.minus.any (·.start == pos)

end FlagReader

/-- Reads flags up to the `:` or `)` behind them, in at most `limit` steps. -/
def readFlagsFrom : (limit : Nat) → FlagReader → Cursor → Reading (List FlagSetting × Cursor)
  | 0, _, c => refuse .flagUnfinished c.pos c.pos
  | limit + 1, r, c =>
    match c.peek? with
    | none => refuse .flagUnfinished c.pos c.pos
    | some x =>
      if x = ':' || x = ')' then
        if 0 < c.pos && r.minusAt (c.pos - 1) then
          refuse .flagDanglingNegation (c.pos - 1) c.pos
        else return (r.settings, c)
      else do
        let r ← r.read x c.charSpan
        readFlagsFrom limit r c.next

/-- Reads flags up to the `:` or `)` behind them. -/
def readFlags (c : Cursor) : Reading (List FlagSetting × Cursor) :=
  readFlagsFrom (c.rest.length + 1) {} c

/-! ### Openings -/

/-- The beginnings of conditions on what surrounds a match, which patterns do not have. -/
def lookaroundMarks : List String := ["?=", "?!", "?<=", "?<!"]

/-- Reads what an opening parenthesis begins, from the parenthesis on. -/
def readOpening (verbose : Bool) (paren : Cursor) : Reading (Opening × Cursor) := do
  let c := paren.advance verbose
  if let some after := lookaroundMarks.findSome? c.past? then
    refuse .lookaround paren.pos after.pos
  else if let some c := (c.past? "?P<").or (c.past? "?<") then
    let (name, c) ← readName c
    return (.capture (some name), c)
  else if let some inner := c.past? "?" then
    if inner.atEnd then .error ⟨.groupUnclosed, paren.charSpan⟩
    else
      let (settings, close) ← readFlags inner
      if close.peek? = some ':' then return (.group settings, close.next)
      else if settings = [] then refuse .repetitionMissing c.pos c.pos
      else return (.flags settings, close.next)
  else return (.capture none, c)

end SchemaFilter.Pattern
