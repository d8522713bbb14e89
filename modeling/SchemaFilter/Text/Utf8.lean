/-!
# UTF-8, with replacement of what is not UTF-8

Rules files, standard input and command-line arguments are bytes.  They are read as UTF-8; each
longest run of bytes that starts a character but cannot be finished, and each byte that can start
none, becomes one replacement character.

* `Bytes` — a byte sequence;
* `encode` — the bytes of a text;
* `decode` — the text of any bytes, read one byte at a time by the machine `Utf8.step`;
* `decode?` — the text of bytes that are UTF-8 throughout.
-/

namespace SchemaFilter

/-- A sequence of bytes. -/
abbrev Bytes := List UInt8

namespace Utf8

/-- The character that stands for bytes that are not UTF-8. -/
def replacement : Char := '\uFFFD'

/-- Where the reader stands between two bytes: between characters, or inside one.  Inside, `due`
    bytes are still missing after the next one, the next one must lie from `low` to `high`, and
    `value` holds the bits read so far. -/
inductive State where
  | start
  | inside (due : Nat) (low high : UInt8) (value : Nat)
  deriving DecidableEq, Repr

/-- The state after the first byte of a character, and the characters it completes. -/
def first (b : UInt8) : State × List Char :=
  if b < 0x80 then (.start, [Char.ofNat b.toNat])
  else if b < 0xC2 then (.start, [replacement])
  else if b < 0xE0 then (.inside 0 0x80 0xBF (b.toNat - 0xC0), [])
  else if b = 0xE0 then (.inside 1 0xA0 0xBF 0, [])
  else if b = 0xED then (.inside 1 0x80 0x9F 0xD, [])
  else if b < 0xF0 then (.inside 1 0x80 0xBF (b.toNat - 0xE0), [])
  else if b = 0xF0 then (.inside 2 0x90 0xBF 0, [])
  else if b < 0xF4 then (.inside 2 0x80 0xBF (b.toNat - 0xF0), [])
  else if b = 0xF4 then (.inside 2 0x80 0x8F 4, [])
  else (.start, [replacement])

/-- Reads one byte.  A byte that cannot continue the character begun gives that character up and
    is read again from the start. -/
def step : State → UInt8 → State × List Char
  | .start, b => first b
  | .inside due low high value, b =>
    if low ≤ b ∧ b ≤ high then
      let value := value * 64 + (b.toNat - 0x80)
      match due with
      | 0 => (.start, [Char.ofNat value])
      | due + 1 => (.inside due 0x80 0xBF value, [])
    else
      let (state, cs) := first b
      (state, replacement :: cs)

/-- What is left to say when the bytes end. -/
def finish : State → List Char
  | .start => []
  | .inside .. => [replacement]

/-- Reads bytes from a state on. -/
def run : State → Bytes → List Char
  | state, [] => finish state
  | state, b :: bs =>
    let (state, cs) := step state b
    cs ++ run state bs

end Utf8

/-- The UTF-8 bytes of a text. -/
def encode (text : List Char) : Bytes :=
  text.flatMap String.utf8EncodeChar

/-- The text of some bytes, with replacement characters for what is not UTF-8. -/
def decode (bytes : Bytes) : List Char :=
  Utf8.run .start bytes

/-- The text of bytes that are UTF-8 throughout: those that their text encodes back to. -/
def decode? (bytes : Bytes) : Option (List Char) :=
  let text := decode bytes
  if encode text = bytes then some text else none

/-- The UTF-8 bytes of a string. -/
def Bytes.ofString (text : String) : Bytes :=
  encode text.toList

/-- The string of some bytes, with replacement characters for what is not UTF-8. -/
def Bytes.toText (bytes : Bytes) : String :=
  .ofList (decode bytes)

end SchemaFilter
