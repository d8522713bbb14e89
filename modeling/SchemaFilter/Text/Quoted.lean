import SchemaFilter.Text.Utf8
import SchemaFilter.Unicode.Unicode17

/-!
# Texts between double quotes

A text is shown between double quotes with escapes for the quote, the backslash, and every
character that would not show as itself.

* `Quoted.isShown` — the characters that show as themselves;
* `quoted` — a text between double quotes;
* `quotedBytes` — bytes between double quotes, where what is not UTF-8 shows byte by byte and
  single quotes are escaped too.
-/

namespace SchemaFilter

namespace Quoted

/-- The characters that do not show: controls, format characters, separators other than the plain
    space, code points that are private or unassigned, and characters that a text may ignore. -/
def hidden : CharSet :=
  .unions [Category.control, Category.format, Unicode17.unassigned, Category.privateUse,
    Category.surrogate, Category.lineSeparator, Category.paragraphSeparator,
    Category.spaceSeparator.diff (.single ' '), Property.defaultIgnorableCodePoint]

/-- The characters that combine with the one before them.  The sound marks of halfwidth Katakana
    extend a grapheme and stand on their own all the same. -/
def combining : CharSet :=
  Unicode17.graphemeExtend.diff (.ofHex "FF9E-FF9F")

/-- Does a character show as itself, and on its own? -/
def isShown (c : Char) : Bool :=
  if c.toNat < 128 then 32 ≤ c.toNat && c.toNat < 127
  else !combining.contains c && !hidden.contains c

/-- A number in lower-case hexadecimal. -/
def hex (n : Nat) : List Char :=
  Nat.toDigits 16 n

/-- A character between quotes of which `quotes` need an escape. -/
def escape (quotes : List Char) (c : Char) : List Char :=
  match c with
  | '\x00' => ['\\', '0']
  | '\t' => ['\\', 't']
  | '\r' => ['\\', 'r']
  | '\n' => ['\\', 'n']
  | '\\' => ['\\', '\\']
  | _ =>
    if quotes.contains c then ['\\', c]
    else if isShown c then [c]
    else ['\\', 'u', '\x7b'] ++ hex c.toNat ++ ['\x7d']

/-- A byte in two upper-case hexadecimal digits, as an escape. -/
def escapeByte (b : UInt8) : List Char :=
  let digits := (hex b.toNat).map Char.toUpper
  ['\\', 'x'] ++ List.replicate (2 - digits.length) '0' ++ digits

/-- Shows bytes: `pending` are the bytes of a character begun, the last first. -/
def escapeBytes (quotes : List Char) : (state : Utf8.State) → (pending : Bytes) → Bytes → List Char
  | _, pending, [] => pending.reverse.flatMap escapeByte
  | state, pending, b :: bs =>
    match Utf8.step state b with
    | (.start, [c]) =>
      if c = Utf8.replacement && encode [c] != (b :: pending).reverse then
        pending.reverse.flatMap escapeByte ++ escapeByte b ++ escapeBytes quotes .start [] bs
      else
        escape quotes c ++ escapeBytes quotes .start [] bs
    | (.start, _ :: more) =>
      pending.reverse.flatMap escapeByte ++
        (if more = [Utf8.replacement] then escapeByte b else more.flatMap (escape quotes)) ++
        escapeBytes quotes .start [] bs
    | (.start, []) => escapeBytes quotes .start [] bs
    | (inside, []) => escapeBytes quotes inside (b :: pending) bs
    | (inside, _ :: _) => pending.reverse.flatMap escapeByte ++ escapeBytes quotes inside [b] bs

end Quoted

/-- A text between double quotes. -/
def quoted (text : String) : String :=
  .ofList (['"'] ++ text.toList.flatMap (Quoted.escape ['"']) ++ ['"'])

/-- Bytes between double quotes. -/
def quotedBytes (bytes : Bytes) : String :=
  .ofList (['"'] ++ Quoted.escapeBytes ['"', '\''] .start [] bytes ++ ['"'])

end SchemaFilter
