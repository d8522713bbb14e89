import SchemaFilter.Json.Skip

/-!
# Reading values of a known type from JSON

* `Json.mismatch` — the fault where one type was asked for and another stands;
* `Json.readString`, `Json.readList`, `Json.readVariant` — read texts, lists, and the members of
  closed types;
* `Json.RecordType`, `Json.readRecord` — read records with fields;
* `Json.readDocument` — reads a text that holds one value.
-/

namespace SchemaFilter.Json

/-- The fault where a value was asked for and another stands.  What stands there is read to be
    named; brackets are not. -/
def mismatch (wanted : String) (text : List Char) : Fault :=
  let found : Except Fault Found :=
    match text with
    | 'n' :: rest => (readWord "ull".toList rest).map fun _ => .null
    | 't' :: rest => (readWord "rue".toList rest).map fun _ => .bool true
    | 'f' :: rest => (readWord "alse".toList rest).map fun _ => .bool false
    | '"' :: rest => (readBody rest).map fun (cs, _) => .string (.ofList cs)
    | '[' :: _ => .ok .array
    | '\x7b' :: _ => .ok .object
    | c :: rest =>
      if c = '-' || c.isDigit then (readNumber (c :: rest)).map fun (text, _) => .number text
      else .error .expectedValue
    | [] => .error .endInValue
  match found with
  | .ok found => .wrongType found wanted
  | .error fault => fault

/-! ### Texts -/

/-- Reads a text. -/
def readString : Read String := fun text =>
  match skipBlanks text with
  | '"' :: rest => (readBody rest).map fun (cs, rest) => (.ofList cs, rest)
  | [] => .error .endInValue
  | text => .error (mismatch "a string" text)

/-- Reads a text or `null`. -/
def readString? : Read (Option String) := fun text =>
  match skipBlanks text with
  | 'n' :: rest => (readWord "ull".toList rest).map fun rest => (none, rest)
  | text => (readString text).map fun (s, rest) => (some s, rest)

/-! ### Lists -/

/-- Goes to the next item of a list, if there is one: the text behind the comma. -/
def nextItem? (first : Bool) (text : List Char) : Except Fault (Option (List Char)) :=
  match skipBlanks text with
  | [] => .error .endInArray
  | ']' :: _ => .ok none
  | ',' :: rest =>
    if first then .ok (some (',' :: rest))
    else
      match skipBlanks rest with
      | ']' :: _ => .error .trailingComma
      | [] => .error .endInValue
      | rest => .ok (some rest)
  | text => if first then .ok (some text) else .error .expectedCommaInArray

/-- Passes over the end of a list. -/
def endArray (text : List Char) : Except Fault (List Char) :=
  match skipBlanks text with
  | ']' :: rest => .ok rest
  | ',' :: rest =>
    if (skipBlanks rest).head? = some ']' then .error .trailingComma
    else .error .trailingCharacters
  | _ :: _ => .error .trailingCharacters
  | [] => .error .endInArray

/-- Reads the items of a list, in at most `limit` steps. -/
def readItems {α : Type} (read : Read α) : (limit : Nat) → (first : Bool) → Read (List α)
  | 0, _, _ => .error .endInArray
  | limit + 1, first, text => do
    match ← nextItem? first text with
    | none => return ([], text)
    | some text =>
      let (item, text) ← read text
      let (items, text) ← readItems read limit false text
      return (item :: items, text)

/-- Reads a list, whose items are read by `read`. -/
def readList {α : Type} (read : Read α) : Read (List α) := fun text => do
  match skipBlanks text with
  | '[' :: rest =>
    let (items, rest) ← readItems read (rest.length + 1) true rest
    return (items, ← endArray rest)
  | [] => .error .endInValue
  | text => .error (mismatch "a sequence" text)

/-! ### Members of closed types -/

/-- Reads the name of a member of a closed type, from behind its opening quote on.  The members are
    `all`, by their names. -/
def readVariantName {α : Type} (all : List (String × α)) : Read α := fun text => do
  let (name, rest) ← readBody text
  let name := String.ofList name
  match all.lookup name with
  | some a => return (a, rest)
  | none => .error (.unknownVariant name (all.map (·.1)))

/-- Reads the key of an object that has to have one, up to behind its opening quote. -/
def openKey (text : List Char) : Except Fault (List Char) :=
  match skipBlanks text with
  | '"' :: rest => .ok rest
  | '\x7d' :: _ => .error .expectedValue
  | _ :: _ => .error .keyNoString
  | [] => .error .endInObject

/-- Reads `null`. -/
def readNull (text : List Char) : Except Fault (List Char) :=
  match skipBlanks text with
  | 'n' :: rest => readWord "ull".toList rest
  | [] => .error .endInValue
  | text => .error (mismatch "unit" text)

/-- Passes over the colon behind a key. -/
def readColon (text : List Char) : Except Fault (List Char) :=
  match skipBlanks text with
  | ':' :: rest => .ok rest
  | _ :: _ => .error .expectedColon
  | [] => .error .endInObject

/-- Reads a member of a closed type: its name, or an object in which the name is the only key and
    has the value `null`. -/
def readVariant {α : Type} (all : List (String × α)) : Read α := fun text => do
  match skipBlanks text with
  | '"' :: rest => readVariantName all rest
  | '\x7b' :: rest =>
    let (a, rest) ← readVariantName all (← openKey rest)
    let rest ← readNull (← readColon rest)
    match skipBlanks rest with
    | '\x7d' :: rest => return (a, rest)
    | _ :: _ => .error .expectedValue
    | [] => .error .endInObject
  | _ :: _ => .error .expectedValue
  | [] => .error .endInValue

/-! ### Records -/

/-- A field of a record: its name, whether it has been read, and how it is read into what has been
    read of the record. -/
structure RecordField (σ : Type) where
  name : String
  isRead : σ → Bool
  read : σ → Read σ

/-- A record type: its name, its fields, a record of which nothing has been read, and the record
    when all has been read. -/
structure RecordType (σ α : Type) where
  name : String
  fields : List (RecordField σ)
  start : σ
  finish : σ → Except Fault α

namespace RecordType

variable {σ α : Type} (type : RecordType σ α)

/-- The wording of the record type. -/
def wanted : String := "struct " ++ type.name

/-- The wording of its number of fields. -/
def wantedLength : String :=
  type.wanted ++ " with " ++ toString type.fields.length ++ " elements"

/-- Reads the fields of a record from a list, of which `count` have been read. -/
def readFields (count : Nat) : List (RecordField σ) → σ → Read σ
  | [], s, text => .ok (s, text)
  | field :: fields, s, text => do
    match ← nextItem? (count == 0) text with
    | none => .error (.wrongLength count type.wantedLength)
    | some text =>
      let (s, text) ← field.read s text
      readFields (count + 1) fields s text

/-- Goes to the next key of an object, if there is one: the text behind its opening quote. -/
def nextKey? (first : Bool) (text : List Char) : Except Fault (Option (List Char)) :=
  match skipBlanks text with
  | [] => .error .endInObject
  | '\x7d' :: _ => .ok none
  | '"' :: rest => if first then .ok (some rest) else .error .expectedCommaInObject
  | ',' :: rest =>
    if first then .error .keyNoString
    else
      match skipBlanks rest with
      | '"' :: rest => .ok (some rest)
      | '\x7d' :: _ => .error .trailingComma
      | [] => .error .endInValue
      | _ :: _ => .error .keyNoString
  | _ :: _ => if first then .error .keyNoString else .error .expectedCommaInObject

/-- Reads the member with a key. -/
def readMember (key : String) (s : σ) : Read σ := fun text => do
  match type.fields.find? (·.name = key) with
  | none => return (s, ← skipValue (← readColon text))
  | some field =>
    if field.isRead s then .error (.repeatedField key)
    else field.read s (← readColon text)

/-- Reads the members of an object, in at most `limit` steps. -/
def readMembers : (limit : Nat) → (first : Bool) → σ → Read σ
  | 0, _, _, _ => .error .endInObject
  | limit + 1, first, s, text => do
    match ← nextKey? first text with
    | none => return (s, text)
    | some text =>
      let (key, text) ← readBody text
      let (s, text) ← type.readMember (.ofList key) s text
      readMembers limit false s text

/-- Reads a record: a list of all fields in order, or an object with the fields and others. -/
def readRecord : Read α := fun text => do
  match skipBlanks text with
  | '[' :: rest =>
    let (s, rest) ← type.readFields 0 type.fields type.start rest
    let a ← type.finish s
    return (a, ← endArray rest)
  | '\x7b' :: rest =>
    let (s, rest) ← type.readMembers (rest.length + 1) true type.start rest
    let a ← type.finish s
    return (a, (skipBlanks rest).tail)
  | [] => .error .endInValue
  | text => .error (mismatch type.wanted text)

end RecordType

/-! ### Whole texts -/

/-- Reads a whole text, which holds one value. -/
def readDocument {α : Type} (read : Read α) (text : String) : Except Fault α := do
  let (a, rest) ← read text.toList
  if skipBlanks rest = [] then return a else .error .trailingCharacters

end SchemaFilter.Json
