import SchemaFilter.Pattern.Bracket
import SchemaFilter.Pattern.Count
import SchemaFilter.Pattern.Group
import SchemaFilter.Pattern.Nesting

/-!
# Reading patterns

* `Pattern.Level` — the alternatives and parts read of a group, or of the whole pattern;
* `Pattern.Reader` — what has been read, with the groups that are open;
* `Pattern.Reader.step` — reads one part;
* `Pattern.parse` — reads a pattern.
-/

namespace SchemaFilter.Pattern

/-- What has been read of a group or of the whole pattern: the alternatives that are complete and
    the parts of the alternative being read, the last first.  The alternative being read began at
    `start`, and the first began at `firstStart`. -/
structure Level where
  firstStart : Nat
  start : Nat
  branches : List Node := []
  parts : List Node := []

namespace Level

/-- A level of which nothing has been read, at offset `pos`. -/
def fresh (pos : Nat) : Level := { firstStart := pos, start := pos }

/-- Adds a part. -/
def push (level : Level) (node : Node) : Level :=
  { level with parts := node :: level.parts }

/-- The alternative being read, which ends at offset `pos`. -/
def branch (level : Level) (pos : Nat) : Node :=
  .ofParts ⟨level.start, pos⟩ level.parts.reverse

/-- Ends an alternative at a bar before offset `pos + 1`. -/
def nextBranch (level : Level) (pos : Nat) : Level :=
  { level with start := pos + 1, branches := level.branch pos :: level.branches, parts := [] }

/-- What has been read, up to offset `pos`. -/
def node (level : Level) (pos : Nat) : Node :=
  .ofBranches ⟨level.firstStart, pos⟩ (level.branch pos :: level.branches).reverse

/-- The last part read, if it can be repeated, and the level without it. -/
def popRepeatable? (level : Level) : Option (Node × Level) :=
  match level.parts with
  | [] | .empty _ :: _ | .flags .. :: _ => none
  | node :: parts => some (node, { level with parts })

end Level

/-- A group that is open: its opening parenthesis, its number if it is remembered, its flags, the
    level around it, and whether the pattern is verbose around it. -/
structure OpenGroup where
  span : Span
  number : Option Nat
  settings : List FlagSetting
  around : Level
  verbose : Bool

/-- What has been read of a pattern: the innermost level, the open groups, the innermost first,
    whether blanks are ignored, how many groups are remembered, and the names of groups. -/
structure Reader where
  level : Level
  groups : List OpenGroup := []
  verbose : Bool := false
  captures : Nat := 0
  names : List GroupName := []

/-- What some flags say about one flag. -/
def settingOf? (flag : Flag) (settings : List FlagSetting) : Option Bool :=
  (settings.find? (·.flag = flag)).map (·.enabled)

namespace Reader

/-- Adds a part. -/
def push (r : Reader) (node : Node) : Reader :=
  { r with level := r.level.push node }

/-- Notes the name of a group, which must be new. -/
def name (r : Reader) (new : GroupName) : Reading Reader :=
  match r.names.find? (·.name = new.name) with
  | some first => .error ⟨.groupNameDuplicate first.span, new.span⟩
  | none => .ok { r with names := new :: r.names }

/-- Begins a group, whose inside begins at offset `pos`. -/
def beginGroup (r : Reader) (span : Span) (number : Option Nat) (settings : List FlagSetting)
    (pos : Nat) : Reader :=
  { r with
    level := .fresh pos
    groups := { span, number, settings, around := r.level, verbose := r.verbose } :: r.groups
    verbose := (settingOf? .ignoreWhitespace settings).getD r.verbose }

/-- Opens a group, or changes flags. -/
def openGroup (r : Reader) (paren : Cursor) : Reading (Reader × Cursor) := do
  let (opening, c) ← readOpening r.verbose paren
  match opening with
  | .flags settings =>
    let r := r.push (.flags ⟨paren.pos, c.pos⟩ settings)
    return ({ r with verbose := (settingOf? .ignoreWhitespace settings).getD r.verbose }, c)
  | .capture name =>
    let r ← match name with
      | none => pure r
      | some name => r.name name
    let number := r.captures + 1
    return ({ r.beginGroup paren.charSpan (some number) [] c.pos with captures := number }, c)
  | .group settings => return (r.beginGroup paren.charSpan none settings c.pos, c)

/-- Closes the innermost group. -/
def closeGroup (r : Reader) (paren : Cursor) : Reading (Reader × Cursor) :=
  match r.groups with
  | [] => .error ⟨.groupUnopened, paren.charSpan⟩
  | group :: groups =>
    let c := paren.next
    let inside := r.level.node paren.pos
    let node := .group ⟨group.span.start, c.pos⟩ group.number group.settings inside
    .ok ({ r with level := group.around.push node, groups, verbose := group.verbose }, c)

/-- Repeats the last part by `read`, which reads how often from an operator on. -/
def repeatLast (r : Reader) (op : Cursor) (read : Cursor → Reading (Count × Cursor)) :
    Reading (Reader × Cursor) :=
  match r.level.popRepeatable? with
  | none => refuse .repetitionMissing op.pos op.pos
  | some (node, level) => do
    let (count, c) ← read op
    let repeated := .times ⟨node.span.start, c.pos⟩ count node
    return ({ r with level := level.push repeated }, c)

/-- Reads an operator of one character, and a question mark behind it. -/
def readOperator (count : Count) (op : Cursor) : Reading (Count × Cursor) :=
  .ok (count.orLazy op.next)

/-- Reads the part that begins with a character. -/
def readPart (r : Reader) (x : Char) (c : Cursor) : Reading (Reader × Cursor) :=
  match x with
  | '(' => r.openGroup c
  | ')' => r.closeGroup c
  | '|' => .ok ({ r with level := r.level.nextBranch c.pos }, c.next)
  | '[' => do
    let (node, after) ← readBracket r.verbose c
    return (r.push node, after)
  | '?' => r.repeatLast c (readOperator { least := 0, most := some 1 })
  | '*' => r.repeatLast c (readOperator { least := 0, most := none })
  | '+' => r.repeatLast c (readOperator { least := 1, most := none })
  | '{' => r.repeatLast c (readCount r.verbose)
  | '\\' => do
    let (part, after) ← readEscape r.verbose c
    return (r.push part.node, after)
  | '.' => .ok (r.push (.dot c.charSpan), c.next)
  | '^' => .ok (r.push (.assertion c.charSpan .lineStart), c.next)
  | '$' => .ok (r.push (.assertion c.charSpan .lineEnd), c.next)
  | _ => .ok (r.push (.literal { span := c.charSpan, char := x }), c.next)

/-- What has been read, when the pattern ends at offset `pos`. -/
def finish (r : Reader) (pos : Nat) : Reading Node :=
  match r.groups with
  | [] => .ok (r.level.node pos)
  | group :: _ => .error ⟨.groupUnclosed, group.span⟩

/-- Reads a pattern from a place on, in at most `limit` parts. -/
def run : (limit : Nat) → Reader → Cursor → Reading Node
  | 0, r, c => r.finish c.pos
  | limit + 1, r, c => do
    let c := c.skip r.verbose
    match c.peek? with
    | none => r.finish c.pos
    | some x =>
      let (r, c) ← r.readPart x c
      run limit r c

end Reader

/-- Reads a pattern. -/
def parse (pattern : List Char) : Reading Node := do
  let node ← Reader.run (pattern.length + 1) { level := .fresh 0 } (.start pattern)
  match node.tooDeep? 0 with
  | some span => .error ⟨.nestedTooDeep, span⟩
  | none => return node

end SchemaFilter.Pattern
