import SchemaFilter.Json.Number
import SchemaFilter.Json.Text

/-!
# Passing over JSON values

The value of a member that nobody asks for has to be JSON, and is not looked at otherwise.

* `Json.skipValue` — passes over a value.
-/

namespace SchemaFilter.Json

/-- What is open around a place. -/
inductive Bracket where
  | array
  | object
  deriving DecidableEq, Repr

/-- Passes over a value that holds no others. -/
def skipScalar : List Char → Except Fault (List Char)
  | 'n' :: rest => readWord "ull".toList rest
  | 't' :: rest => readWord "rue".toList rest
  | 'f' :: rest => readWord "alse".toList rest
  | '"' :: rest => skipBody rest
  | c :: rest =>
    if c = '-' || c.isDigit then skipNumber (c :: rest) else .error .expectedValue
  | [] => .error .endInValue

/-- Passes over a key and the colon behind it. -/
def skipKey (text : List Char) : Except Fault (List Char) := do
  match skipBlanks text with
  | '"' :: rest =>
    match skipBlanks (← skipBody rest) with
    | ':' :: rest => return rest
    | _ :: _ => .error .expectedColon
    | [] => .error .endInObject
  | _ :: _ => .error .keyNoString
  | [] => .error .endInObject

mutual

/-- Passes over a value and over what closes the brackets around it, in at most `limit` steps. -/
def skipValueIn : (limit : Nat) → List Bracket → List Char → Except Fault (List Char)
  | 0, _, _ => .error .endInValue
  | limit + 1, around, text => do
    match skipBlanks text with
    | '[' :: rest =>
      match skipBlanks rest with
      | ']' :: rest => skipRestOf limit around rest
      | [] => .error .endInArray
      | rest => skipValueIn limit (.array :: around) rest
    | '\x7b' :: rest =>
      match skipBlanks rest with
      | '\x7d' :: rest => skipRestOf limit around rest
      | [] => .error .endInObject
      | rest => skipValueIn limit (.object :: around) (← skipKey rest)
    | text => skipRestOf limit around (← skipScalar text)

/-- Passes over what follows a value up to the end of the brackets around it, in at most `limit`
    steps. -/
def skipRestOf : (limit : Nat) → List Bracket → List Char → Except Fault (List Char)
  | _, [], text => .ok text
  | 0, _ :: _, _ => .error .endInValue
  | limit + 1, .array :: around, text =>
    match skipBlanks text with
    | ',' :: rest => skipValueIn limit (.array :: around) rest
    | ']' :: rest => skipRestOf limit around rest
    | _ :: _ => .error .expectedCommaInArray
    | [] => .error .endInArray
  | limit + 1, .object :: around, text => do
    match skipBlanks text with
    | ',' :: rest => skipValueIn limit (.object :: around) (← skipKey rest)
    | '\x7d' :: rest => skipRestOf limit around rest
    | _ :: _ => .error .expectedCommaInObject
    | [] => .error .endInObject

end

/-- Passes over a value. -/
def skipValue (text : List Char) : Except Fault (List Char) :=
  skipValueIn (text.length + 1) [] text

end SchemaFilter.Json
