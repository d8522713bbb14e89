import SchemaFilter.Unicode.Property

/-!
# Conditions on a place in a text

A place lies between two characters, or at an end of the text.  What holds of it depends on the
character before it and the character behind it.

* `Pattern.Look` — the conditions;
* `Pattern.Look.wordKind?` — the words that they are about;
* `Pattern.Look.holds` — when they hold.
-/

namespace SchemaFilter.Pattern

/-- The characters of words: by Unicode, or in ASCII only. -/
inductive WordKind where
  | unicode
  | ascii
  deriving DecidableEq, Repr

/-- The letters, digits and underscore of ASCII. -/
def asciiWord : CharSet := .ofHex "30-39 41-5A 5F 61-7A"

/-- The characters of words. -/
def WordKind.members : WordKind → CharSet
  | unicode => Property.word
  | ascii => asciiWord

/-- How lines end: by a line feed, or also by a carriage return, where both together end one. -/
inductive LineEnds where
  | lf
  | crlf
  deriving DecidableEq, Repr

/-- A condition on a place. -/
inductive Look where
  | textStart
  | textEnd
  | lineStart (ends : LineEnds)
  | lineEnd (ends : LineEnds)
  | wordBoundary (kind : WordKind)
  | notWordBoundary (kind : WordKind)
  | wordStart (kind : WordKind)
  | wordEnd (kind : WordKind)
  | wordStartHalf (kind : WordKind)
  | wordEndHalf (kind : WordKind)
  deriving DecidableEq, Repr

namespace Look

/-- The kind of the words that a condition is about, if it is about words. -/
def wordKind? : Look → Option WordKind
  | textStart | textEnd | lineStart _ | lineEnd _ => none
  | wordBoundary kind | notWordBoundary kind | wordStart kind | wordEnd kind
  | wordStartHalf kind | wordEndHalf kind => some kind

/-- Does a line start between two characters? -/
def startsLine (ends : LineEnds) (before after : Option Char) : Bool :=
  match ends with
  | .lf => before.isNone || before == some '\n'
  | .crlf =>
    before.isNone || before == some '\n' || (before == some '\r' && after != some '\n')

/-- Does a line end between two characters? -/
def endsLine (ends : LineEnds) (before after : Option Char) : Bool :=
  match ends with
  | .lf => after.isNone || after == some '\n'
  | .crlf =>
    after.isNone || after == some '\r' || (after == some '\n' && before != some '\r')

/-- Does a condition hold between two characters? -/
def holds (look : Look) (before after : Option Char) : Bool :=
  let word (kind : WordKind) (c : Option Char) : Bool := c.any kind.members.contains
  match look with
  | textStart => before.isNone
  | textEnd => after.isNone
  | lineStart ends => startsLine ends before after
  | lineEnd ends => endsLine ends before after
  | wordBoundary kind => word kind before != word kind after
  | notWordBoundary kind => word kind before == word kind after
  | wordStart kind => !word kind before && word kind after
  | wordEnd kind => word kind before && !word kind after
  | wordStartHalf kind => !word kind before
  | wordEndHalf kind => !word kind after

end Look

end SchemaFilter.Pattern
