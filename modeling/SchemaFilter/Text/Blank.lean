/-!
# Blank characters and trimming

A character is *blank* when it has the Unicode property `White_Space`.  Rules, options, object
parts and rules-file lines are all read without the blanks around them.

* `isBlank` — the 25 blank characters;
* `trim` — a text without its leading and trailing blanks;
* `allBlank` — a text that `trim` leaves empty.
-/

namespace SchemaFilter

/-- The characters with the property `White_Space`. -/
def isBlank (c : Char) : Bool :=
  let n := c.toNat
  (0x9 ≤ n && n ≤ 0xD) || n == 0x20 || n == 0x85 || n == 0xA0 || n == 0x1680 ||
    (0x2000 ≤ n && n ≤ 0x200A) || n == 0x2028 || n == 0x2029 || n == 0x202F || n == 0x205F ||
    n == 0x3000

/-- A text without the blanks in front of it. -/
def trimLeft (text : List Char) : List Char :=
  text.dropWhile isBlank

/-- A text without the blanks behind it. -/
def trimRight (text : List Char) : List Char :=
  (text.reverse.dropWhile isBlank).reverse

/-- A text without the blanks around it. -/
def trim (text : List Char) : List Char :=
  trimRight (trimLeft text)

/-- Is every character blank?  The empty text counts. -/
def allBlank (text : List Char) : Bool :=
  text.all isBlank

/-- `trim`, on strings. -/
def trimmed (text : String) : String :=
  .ofList (trim text.toList)

end SchemaFilter
