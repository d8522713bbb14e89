/-!
# JSON documents

* `Json.Value` — JSON values, with the members of objects in order;
* `Json.Value.compact` — the text of a value without blanks;
* `Json.Value.pretty` — the text of a value on lines of its own.
-/

namespace SchemaFilter.Json

/-- A JSON value.  The only numbers that are written are natural ones. -/
inductive Value where
  | null
  | bool (b : Bool)
  | number (n : Nat)
  | string (s : String)
  | array (items : List Value)
  | object (members : List (String × Value))

/-! ### Strings -/

/-- A digit to base 16. -/
def hexDigit (n : Nat) : Char :=
  if n < 10 then Char.ofNat (48 + n) else Char.ofNat (87 + n)

/-- A character as it stands in a string: quotes, backslashes and control characters are escaped. -/
def escapeChar (c : Char) : List Char :=
  if c = '"' then ['\\', '"']
  else if c = '\\' then ['\\', '\\']
  else if c = '\x08' then ['\\', 'b']
  else if c = '\x0C' then ['\\', 'f']
  else if c = '\n' then ['\\', 'n']
  else if c = '\r' then ['\\', 'r']
  else if c = '\t' then ['\\', 't']
  else if c.toNat < 32 then
    ['\\', 'u', '0', '0', hexDigit (c.toNat / 16), hexDigit (c.toNat % 16)]
  else [c]

/-- A string between quotes. -/
def stringChars (s : String) : List Char :=
  ['"'] ++ s.toList.flatMap escapeChar ++ ['"']

namespace Value

/-! ### Values without blanks -/

mutual

/-- The text of a value without blanks, as characters. -/
def compactChars : Value → List Char
  | null => "null".toList
  | bool true => "true".toList
  | bool false => "false".toList
  | number n => (toString n).toList
  | string s => stringChars s
  | array items => ['['] ++ compactItems items ++ [']']
  | object members => ['\x7b'] ++ compactMembers members ++ ['\x7d']

/-- Items with commas between them. -/
def compactItems : List Value → List Char
  | [] => []
  | [item] => item.compactChars
  | item :: items => item.compactChars ++ [','] ++ compactItems items

/-- Members with commas between them. -/
def compactMembers : List (String × Value) → List Char
  | [] => []
  | [(key, value)] => stringChars key ++ [':'] ++ value.compactChars
  | (key, value) :: members =>
    stringChars key ++ [':'] ++ value.compactChars ++ [','] ++ compactMembers members

end

/-- The text of a value without blanks. -/
def compact (v : Value) : String :=
  .ofList v.compactChars

/-! ### Values on lines of their own -/

/-- A new line at a depth of nesting. -/
def newLine (depth : Nat) : List Char :=
  '\n' :: List.replicate (2 * depth) ' '

mutual

/-- The text of a value at a depth of nesting, as characters.  Each item and member has a line of
    its own, and what holds none stays on one line. -/
def prettyChars (depth : Nat) : Value → List Char
  | null => "null".toList
  | bool true => "true".toList
  | bool false => "false".toList
  | number n => (toString n).toList
  | string s => stringChars s
  | array [] => ['[', ']']
  | array items => ['['] ++ prettyItems (depth + 1) items ++ newLine depth ++ [']']
  | object [] => ['\x7b', '\x7d']
  | object members =>
    ['\x7b'] ++ prettyMembers (depth + 1) members ++ newLine depth ++ ['\x7d']

/-- Items on lines, with commas between them. -/
def prettyItems (depth : Nat) : List Value → List Char
  | [] => []
  | [item] => newLine depth ++ item.prettyChars depth
  | item :: items => newLine depth ++ item.prettyChars depth ++ [','] ++ prettyItems depth items

/-- Members on lines, with commas between them. -/
def prettyMembers (depth : Nat) : List (String × Value) → List Char
  | [] => []
  | [(key, value)] => newLine depth ++ stringChars key ++ [':', ' '] ++ value.prettyChars depth
  | (key, value) :: members =>
    newLine depth ++ stringChars key ++ [':', ' '] ++ value.prettyChars depth ++ [','] ++
      prettyMembers depth members

end

/-- The text of a value on lines of its own. -/
def pretty (v : Value) : String :=
  .ofList (v.prettyChars 0)

end Value

end SchemaFilter.Json
