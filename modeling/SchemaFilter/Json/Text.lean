import SchemaFilter.Json.Fault
import SchemaFilter.Text.Utf8
import SchemaFilter.Unicode.CharSet

/-!
# Strings, words and blanks in JSON texts

* `Json.skipBlanks` — passes over blanks;
* `Json.readWord` — reads the rest of a word such as `null`;
* `Json.readBody`, `Json.skipBody` — read and pass over a string, from behind its opening quote on.

A character is escaped as the unit or the two units that it has in UTF-16.
-/

namespace SchemaFilter.Json

/-- Passes over the blanks that JSON allows between its parts. -/
def skipBlanks : List Char → List Char
  | c :: text =>
    if c = ' ' || c = '\n' || c = '\t' || c = '\r' then skipBlanks text else c :: text
  | [] => []

/-- Reads the rest of a word. -/
def readWord : (word : List Char) → List Char → Except Fault (List Char)
  | [], text => .ok text
  | _ :: _, [] => .error .endInValue
  | w :: word, c :: text => if c = w then readWord word text else .error .expectedWord

/-! ### Escapes -/

/-- The character that one letter after a backslash stands for. -/
def escaped? : Char → Option Char
  | '"' => some '"'
  | '\\' => some '\\'
  | '/' => some '/'
  | 'b' => some '\x08'
  | 'f' => some '\x0C'
  | 'n' => some '\n'
  | 'r' => some '\r'
  | 't' => some '\t'
  | _ => none

/-- The unit that four hexadecimal digits stand for. -/
def unit? (a b c d : Char) : Option Nat := do
  return ((← CharSet.hexValue? a) * 16 + (← CharSet.hexValue? b)) * 256 +
    ((← CharSet.hexValue? c) * 16 + (← CharSet.hexValue? d))

/-- Is a unit the first of a pair? -/
def isHighUnit (n : Nat) : Bool := 0xD800 ≤ n && n < 0xDC00

/-- Is a unit the second of a pair? -/
def isLowUnit (n : Nat) : Bool := 0xDC00 ≤ n && n < 0xE000

/-- The character that a pair of units stands for. -/
def ofPair (high low : Nat) : Char :=
  .ofNat ((high - 0xD800) * 0x400 + (low - 0xDC00) + 0x10000)

/-- What is wrong with an escape of fewer than four characters: the text ends, or, where the
    characters take four bytes all the same, they are no digits. -/
def shortUnit (digits : List Char) : Fault :=
  if (encode digits).length < 4 then .endInString else .invalidEscape

/-- What is wrong with a text behind the first unit of a pair that does not begin with an escaped
    unit. -/
def brokenPair : List Char → Fault
  | [] | ['\\'] => .endInString
  | '\\' :: 'u' :: digits => shortUnit digits
  | _ => .unfinishedPair

/-! ### Strings -/

/-- Puts a character before the string read. -/
def consing (c : Char) (read : Except Fault (List Char × List Char)) :
    Except Fault (List Char × List Char) :=
  read.map fun (cs, rest) => (c :: cs, rest)

/-- Reads a string, from behind its opening quote on. -/
def readBody : Read (List Char)
  | [] => .error .endInString
  | '"' :: rest => .ok ([], rest)
  | '\\' :: 'u' :: a :: b :: c :: d :: rest =>
    match unit? a b c d with
    | none => .error .invalidEscape
    | some unit =>
      if isLowUnit unit then .error .loneSurrogate
      else if isHighUnit unit then
        match rest with
        | '\\' :: 'u' :: e :: f :: g :: h :: rest =>
          match unit? e f g h with
          | none => .error .invalidEscape
          | some low =>
            if isLowUnit low then consing (ofPair unit low) (readBody rest)
            else .error .loneSurrogate
        | rest => .error (brokenPair rest)
      else consing (.ofNat unit) (readBody rest)
  | '\\' :: 'u' :: digits => .error (shortUnit digits)
  | ['\\'] => .error .endInString
  | '\\' :: x :: rest =>
    match escaped? x with
    | some c => consing c (readBody rest)
    | none => .error .invalidEscape
  | c :: rest => if c.toNat < 32 then .error .controlCharacter else consing c (readBody rest)

/-- Passes over a string, from behind its opening quote on.  Units need not be paired. -/
def skipBody : List Char → Except Fault (List Char)
  | [] => .error .endInString
  | '"' :: rest => .ok rest
  | '\\' :: 'u' :: a :: b :: c :: d :: rest =>
    if (unit? a b c d).isSome then skipBody rest else .error .invalidEscape
  | '\\' :: 'u' :: digits => .error (shortUnit digits)
  | ['\\'] => .error .endInString
  | '\\' :: x :: rest =>
    if (escaped? x).isSome then skipBody rest else .error .invalidEscape
  | c :: rest => if c.toNat < 32 then .error .controlCharacter else skipBody rest

end SchemaFilter.Json
