import SchemaFilter.Text.Utf8

/-!
# Texts without control sequences

A message that shows what a user has typed must not steer the user's terminal.  `plain` leaves out
escape sequences and every control character but the blanks of ASCII.

* `Plain.State` — where a reader stands in an escape sequence;
* `Plain.step` — what one more character does;
* `plain` — a text without control sequences.
-/

namespace SchemaFilter

namespace Plain

/-- Where the reader stands: in plain text; behind an escape character; behind characters that a
    final one follows; in a control sequence; at the beginning of a device control string, in its
    numbers or in the characters behind them; in a string that an escape character ends; or in one
    that a bell ends too. -/
inductive State where
  | plain
  | escape
  | unfinished
  | sequence
  | device
  | deviceNumbers
  | deviceUnfinished
  | string
  | command
  deriving DecidableEq, Repr

/-- The control characters that are kept: tab, line feed, form feed and carriage return. -/
def isKeptControl (c : Char) : Bool :=
  c == '\t' || c == '\n' || c == '\x0C' || c == '\r'

/-- Is a character a control character of ASCII? -/
def isControl (c : Char) : Bool :=
  c.toNat < 0x20 || c.toNat == 0x7F

/-- Does the byte `9C`, which ends a string, stand in the encoding of a character? -/
def holdsTerminator (c : Char) : Bool :=
  (encode [c]).contains 0x9C

/-- The state behind an escape character and one more. -/
def afterEscape (c : Char) : State :=
  if c = '[' then .sequence
  else if c = ']' then .command
  else if c = 'P' then .device
  else if ['X', '^', '_'].contains c then .string
  else if c.toNat < 0x30 then .unfinished
  else .plain

/-- The state behind a printable character of ASCII. -/
def afterPrintable (c : Char) : State → State
  | .plain => .plain
  | .escape => afterEscape c
  | .unfinished => if c.toNat < 0x30 then .unfinished else .plain
  | .sequence => if c.toNat < 0x40 then .sequence else .plain
  | .device =>
    if c.toNat < 0x30 then .deviceUnfinished
    else if c.toNat < 0x40 then .deviceNumbers
    else .string
  | .deviceNumbers =>
    if c.toNat < 0x30 then .deviceUnfinished
    else if c.toNat < 0x3C then .deviceNumbers
    else .string
  | .deviceUnfinished => if c.toNat < 0x30 then .deviceUnfinished else .string
  | .string => .string
  | .command => .command

/-- The states in which a control character that is kept elsewhere is no part of a text. -/
def State.isOpaque : State → Bool
  | plain | escape | unfinished | sequence => false
  | device | deviceNumbers | deviceUnfinished | string | command => true

/-- Reads a character: the state behind it, and whether it is kept. -/
def step (state : State) (c : Char) : State × Bool :=
  if c = '\x1B' then (.escape, false)
  else if c = '\x18' || c = '\x1A' then (.plain, false)
  else if 0x80 ≤ c.toNat then
    if state = .string && holdsTerminator c then (.plain, false) else (state, state == .plain)
  else if isKeptControl c && !state.isOpaque then (.plain, true)
  else if isControl c then
    (if state = .command && c = '\x07' then .plain else state, false)
  else (afterPrintable c state, state == .plain)

/-- What is kept of a text, from a state on. -/
def keep : State → List Char → List Char
  | _, [] => []
  | state, c :: cs =>
    let (state, kept) := step state c
    if kept then c :: keep state cs else keep state cs

end Plain

/-- A text without control sequences. -/
def plain (text : String) : String :=
  .ofList (Plain.keep .plain text.toList)

end SchemaFilter
