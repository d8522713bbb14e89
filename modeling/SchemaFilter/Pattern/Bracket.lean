import SchemaFilter.Pattern.Escape

/-!
# Classes in brackets

* `Pattern.ClassLevel` — a class that is open, with what has been read of it;
* `Pattern.readPosix?` — reads a named class such as `[:alpha:]`;
* `Pattern.openClass` — reads the beginning of a class;
* `Pattern.readBracket` — reads a class from its opening to its closing bracket.
-/

namespace SchemaFilter.Pattern

/-- A class that is open.  `opening` is the place of its beginning, `pending` the operator that
    waits for what is being read, `items` are the items being read, the last first, and `span` is
    their place. -/
structure ClassLevel where
  opening : Span
  negated : Bool
  pending : Option (ClassNode × ClassOp) := none
  span : Span
  items : List ClassNode := []

namespace ClassLevel

/-- Adds an item. -/
def push (level : ClassLevel) (item : ClassNode) : ClassLevel :=
  let start := if level.items.isEmpty then item.span.start else level.span.start
  { level with span := ⟨start, item.span.stop⟩, items := item :: level.items }

/-- What has been read of the class. -/
def body (level : ClassLevel) : ClassNode :=
  let items := ClassNode.ofItems level.span level.items.reverse
  match level.pending with
  | none => items
  | some (lhs, op) => .binary ⟨lhs.span.start, items.span.stop⟩ op lhs items

/-- Goes on behind an operator, at offset `pos`. -/
def operate (level : ClassLevel) (op : ClassOp) (pos : Nat) : ClassLevel :=
  { level with pending := some (level.body, op), span := .at pos, items := [] }

/-- The class, closed before offset `stop`. -/
def closed (level : ClassLevel) (stop : Nat) : Node :=
  .bracket ⟨level.opening.start, stop⟩ level.negated level.body

/-- The class as an item of another, closed before offset `stop`. -/
def closedItem (level : ClassLevel) (stop : Nat) : ClassNode :=
  .bracket ⟨level.opening.start, stop⟩ level.negated level.body

/-- Refuses a class that is not closed. -/
def unclosed {α : Type} (level : ClassLevel) : Reading α :=
  .error ⟨.classUnclosed, level.opening⟩

end ClassLevel

/-! ### Named classes -/

/-- The class with a name. -/
def Posix.ofName? (name : List Char) : Option Posix :=
  [("alnum", Posix.alnum), ("alpha", .alpha), ("ascii", .ascii), ("blank", .blank),
    ("cntrl", .cntrl), ("digit", .digit), ("graph", .graph), ("lower", .lower),
    ("print", .print), ("punct", .punct), ("space", .space), ("upper", .upper),
    ("word", .word), ("xdigit", .xdigit)].lookup (String.ofList name)

/-- Reads a named class, if there is one. -/
def readPosix? (c : Cursor) : Option (ClassNode × Cursor) := do
  let body ← c.past? "[:"
  let (negated, body) :=
    match body.past? "^" with
    | some body => (true, body)
    | none => (false, body)
  let (name, close) := body.collect false (· ≠ ':')
  let after ← close.past? ":]"
  let kind ← Posix.ofName? name
  return (.posix ⟨c.pos, after.pos⟩ negated kind, after)

/-! ### The beginning of a class -/

/-- Reads hyphens at the beginning of a class, which stand for themselves; at most `limit`. -/
def leadingHyphens (verbose : Bool) (start : Nat) :
    (limit : Nat) → ClassLevel → Cursor → Reading (ClassLevel × Cursor)
  | 0, level, c => .ok (level, c)
  | limit + 1, level, c =>
    if c.peek? = some '-' then
      let level := level.push (.literal { span := c.charSpan, char := '-' })
      let c := c.advance verbose
      if c.atEnd then refuse .classUnclosed start start
      else leadingHyphens verbose start limit level c
    else .ok (level, c)

/-- Reads the beginning of a class: the bracket, a `^`, hyphens, and a closing bracket that comes
    first and stands for itself. -/
def openClass (verbose : Bool) (bracket : Cursor) : Reading (ClassLevel × Cursor) := do
  let start := bracket.pos
  let c := bracket.advance verbose
  if c.atEnd then refuse .classUnclosed start c.pos
  else
    let negated := c.peek? = some '^'
    let c := if negated then c.advance verbose else c
    if c.atEnd then refuse .classUnclosed start c.pos
    else
      let (level, c) ← leadingHyphens verbose start c.rest.length
        { opening := .at start, negated, span := .at c.pos } c
      if level.items.isEmpty && c.peek? = some ']' then
        let level := level.push (.literal { span := c.charSpan, char := ']' })
        let c := c.advance verbose
        if c.atEnd then refuse .classUnclosed start c.pos
        else return ({ level with opening := ⟨start, c.pos⟩ }, c)
      else return ({ level with opening := ⟨start, c.pos⟩ }, c)

/-! ### The items of a class -/

/-- The next character but one, as the reader of ranges sees it: in a verbose pattern, the first
    that is no blank, behind one `#` at most. -/
def Cursor.peekSecond? (verbose : Bool) (c : Cursor) : Option Char :=
  let rest := c.rest.tail
  if verbose then
    let seen := rest.dropWhile isBlank
    let seen := if seen.head? = some '#' then seen.tail.dropWhile isBlank else seen
    seen.head?.or rest.head?
  else rest.head?

/-- Reads one character or escape of a class. -/
def readClassPrimitive (verbose : Bool) (c : Cursor) : Reading (Primitive × Cursor) :=
  match c.peek? with
  | some '\\' => readEscape verbose c
  | x => .ok (.literal { span := c.charSpan, char := x.getD ' ' }, c.next)

/-- Reads one item of a class: a character, an escape or a range. -/
def readClassItem (verbose : Bool) (level : ClassLevel) (c : Cursor) :
    Reading (ClassNode × Cursor) := do
  let (lo, c) ← readClassPrimitive verbose c
  let c := c.skip verbose
  if c.atEnd then level.unclosed
  else
    let second := c.peekSecond? verbose
    if c.peek? ≠ some '-' || second = some ']' || second = some '-' then
      return (← lo.classItem, c)
    else
      let c := c.advance verbose
      if c.atEnd then level.unclosed
      else
        let (hi, c) ← readClassPrimitive verbose c
        let span : Span := ⟨lo.span.start, hi.span.stop⟩
        let lo ← lo.rangeEnd
        let hi ← hi.rangeEnd
        if lo.char ≤ hi.char then return (.range span lo hi, c)
        else .error ⟨.classRangeInvalid, span⟩

/-- Reads an operator between classes, if there is one. -/
def readClassOp? (c : Cursor) : Option (ClassOp × Cursor) :=
  ((c.past? "&&").map fun c => (.intersection, c)).or <|
    ((c.past? "--").map fun c => (.difference, c)).or <|
      (c.past? "~~").map fun c => (.symmetricDifference, c)

/-- Reads what is left of a class that is open, in at most `limit` steps; the classes around it are
    `outer`, the innermost first. -/
def readClassRest (verbose : Bool) :
    (limit : Nat) → (level : ClassLevel) → (outer : List ClassLevel) → Cursor →
    Reading (Node × Cursor)
  | 0, level, _, _ => level.unclosed
  | limit + 1, level, outer, c => do
    let c := c.skip verbose
    match c.peek? with
    | none => level.unclosed
    | some '[' =>
      match readPosix? c with
      | some (item, c) => readClassRest verbose limit (level.push item) outer c
      | none =>
        let (inner, c) ← openClass verbose c
        readClassRest verbose limit inner (level :: outer) c
    | some ']' =>
      let c := c.next
      match outer with
      | [] => return (level.closed c.pos, c)
      | around :: outer =>
        readClassRest verbose limit (around.push (level.closedItem c.pos)) outer c
    | some _ =>
      match readClassOp? c with
      | some (op, c) => readClassRest verbose limit (level.operate op c.pos) outer c
      | none =>
        let (item, c) ← readClassItem verbose level c
        readClassRest verbose limit (level.push item) outer c

/-- Reads a class, from its opening bracket on. -/
def readBracket (verbose : Bool) (c : Cursor) : Reading (Node × Cursor) := do
  let (level, c) ← openClass verbose c
  readClassRest verbose c.rest.length level [] c

end SchemaFilter.Pattern
