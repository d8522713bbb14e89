import SchemaFilter.Text.Quoted

/-!
# What can be wrong with a JSON text

A text can end too early, it can be no JSON, or it can be JSON that does not say what is asked for.

* `Json.Fault` — what is wrong;
* `Json.Fault.kind` — in which of the three ways;
* `Json.Fault.message` — its wording.
-/

namespace SchemaFilter.Json

/-- What was found where something else was asked for. -/
inductive Found where
  | null
  | bool (b : Bool)
  | number (text : String)
  | string (s : String)
  | array
  | object
  deriving DecidableEq, Repr

/-- The wording of what was found. -/
def Found.text : Found → String
  | null => "null"
  | bool true => "boolean `true`"
  | bool false => "boolean `false`"
  | number text => text
  | string s => "string " ++ quoted s
  | array => "sequence"
  | object => "map"

/-- What is wrong with a JSON text. -/
inductive Fault where
  | endInArray
  | endInObject
  | endInString
  | endInValue
  | expectedColon
  | expectedCommaInArray
  | expectedCommaInObject
  | expectedWord
  | expectedValue
  | invalidEscape
  | invalidNumber
  | numberOutOfRange
  | loneSurrogate
  | unfinishedPair
  | controlCharacter
  | keyNoString
  | trailingComma
  | trailingCharacters
  | wrongType (found : Found) (wanted : String)
  | wrongLength (length : Nat) (wanted : String)
  | unknownVariant (name : String) (known : List String)
  | missingField (name : String)
  | repeatedField (name : String)
  deriving DecidableEq, Repr

/-- The ways in which a JSON text can be wrong. -/
inductive FaultKind where
  | ended
  | ungrammatical
  | unsuitable
  deriving DecidableEq, Repr

namespace FaultKind

/-- The word for a kind. -/
def keyword : FaultKind → String
  | ended => "Eof"
  | ungrammatical => "Syntax"
  | unsuitable => "Data"

end FaultKind

namespace Fault

/-- In which way a text is wrong. -/
def kind : Fault → FaultKind
  | endInArray | endInObject | endInString | endInValue => .ended
  | wrongType .. | wrongLength .. | unknownVariant .. | missingField _ | repeatedField _ =>
    .unsuitable
  | _ => .ungrammatical

/-- Names in backticks, with commas between them. -/
def listNames (names : List String) : String :=
  ", ".intercalate (names.map fun name => "`" ++ name ++ "`")

/-- The wording of the names that are known. -/
def oneOf : List String → String
  | [a, b] => "expected `" ++ a ++ "` or `" ++ b ++ "`"
  | names => "expected one of " ++ listNames names

/-- The wording of what is wrong. -/
def message : Fault → String
  | endInArray => "EOF while parsing a list"
  | endInObject => "EOF while parsing an object"
  | endInString => "EOF while parsing a string"
  | endInValue => "EOF while parsing a value"
  | expectedColon => "expected `:`"
  | expectedCommaInArray => "expected `,` or `]`"
  | expectedCommaInObject => "expected `,` or `\x7d`"
  | expectedWord => "expected ident"
  | expectedValue => "expected value"
  | invalidEscape => "invalid escape"
  | invalidNumber => "invalid number"
  | numberOutOfRange => "number out of range"
  | loneSurrogate => "lone leading surrogate in hex escape"
  | unfinishedPair => "unexpected end of hex escape"
  | controlCharacter =>
    "control character (\\u0000-\\u001F) found while parsing a string"
  | keyNoString => "key must be a string"
  | trailingComma => "trailing comma"
  | trailingCharacters => "trailing characters"
  | wrongType found wanted => "invalid type: " ++ found.text ++ ", expected " ++ wanted
  | wrongLength length wanted =>
    "invalid length " ++ toString length ++ ", expected " ++ wanted
  | unknownVariant name known => "unknown variant `" ++ name ++ "`, " ++ oneOf known
  | missingField name => "missing field `" ++ name ++ "`"
  | repeatedField name => "duplicate field `" ++ name ++ "`"

end Fault

/-- Reading from the beginning of a text: a result and the rest of the text, or a fault. -/
abbrev Read (α : Type) := List Char → Except Fault (α × List Char)

end SchemaFilter.Json
