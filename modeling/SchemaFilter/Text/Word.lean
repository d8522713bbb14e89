import SchemaFilter.Unicode.Unicode17

/-!
# Letters, digits and the words they form

* `isLetter` — alphabetic characters;
* `isLetterOrDigit` — alphabetic characters and numbers;
* `isWordChar` — these and the underscore;
* `leadingWord` — the word that a text starts with.
-/

namespace SchemaFilter

/-- The alphabetic characters. -/
def isLetter (c : Char) : Bool :=
  if c.toNat < 128 then c.isAlpha else Unicode17.alphabetic.contains c

/-- The alphabetic characters and the characters of the general categories of numbers. -/
def isLetterOrDigit (c : Char) : Bool :=
  if c.toNat < 128 then c.isAlphanum
  else Unicode17.alphabetic.contains c || Unicode17.number.contains c

/-- The characters that continue a word. -/
def isWordChar (c : Char) : Bool :=
  isLetterOrDigit c || c == '_'

/-- The longest word that a text starts with, or all of a text that starts with none. -/
def leadingWord (text : List Char) : List Char :=
  let word := text.takeWhile isWordChar
  if word = [] then text else word

end SchemaFilter
