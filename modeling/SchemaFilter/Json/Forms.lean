import SchemaFilter.Filter.SchemaObject
import SchemaFilter.Json.Decode
import SchemaFilter.Json.Value

/-!
# Rules and objects as JSON

* `Rule.json`, `Rule.ofJson` — rules;
* `SchemaObject.json`, `SchemaObject.ofJson` — schema objects;
* `Operation.readJson`, `Subject.readJson`, `Polarity.readJson` — the closed parts of rules.
-/

namespace SchemaFilter

open Json

/-! ### The closed parts of rules -/

/-- Reads an operation. -/
def Operation.readJson : Read Operation :=
  readVariant (Operation.all.map fun op => (op.keyword, op))

/-- Reads a subject. -/
def Subject.readJson : Read Subject :=
  readVariant (Subject.all.map fun subject => (subject.keyword, subject))

/-- Reads a polarity. -/
def Polarity.readJson : Read Polarity :=
  readVariant (Polarity.all.map fun polarity => (polarity.keyword, polarity))

/-! ### Records with fields -/

/-- The value of a field that must have been read. -/
def required {α : Type} (name : String) : Option α → Except Fault α
  | some a => .ok a
  | none => .error (.missingField name)

/-- A field of a record that is being read. -/
def recordField {σ α : Type} (name : String) (get : σ → Option α) (set : σ → α → σ)
    (read : Read α) : RecordField σ where
  name := name
  isRead s := (get s).isSome
  read s text := (read text).map fun (a, rest) => (set s a, rest)

/-! ### Rules -/

namespace Rule

/-- A rule as JSON. -/
def json (rule : Rule) : Value :=
  .object [
    ("operation", .string rule.operation.keyword),
    ("filter_type", .string rule.subject.keyword),
    ("match_type", .string rule.polarity.keyword),
    ("pattern", .string rule.pattern),
    ("options", .array (rule.options.map .string))]

/-- What has been read of a rule. -/
structure Draft where
  operation : Option Operation := none
  subject : Option Subject := none
  polarity : Option Polarity := none
  pattern : Option String := none
  options : Option (List String) := none

/-- The rule, if all of it has been read. -/
def Draft.finish (draft : Draft) : Except Fault Rule := do
  return {
    operation := ← required "operation" draft.operation
    subject := ← required "filter_type" draft.subject
    polarity := ← required "match_type" draft.polarity
    pattern := ← required "pattern" draft.pattern
    options := ← required "options" draft.options }

/-- Rules as records. -/
def recordType : RecordType Draft Rule where
  name := "FilterDefinition"
  fields := [
    recordField "operation" (·.operation) (fun d a => { d with operation := some a })
      Operation.readJson,
    recordField "filter_type" (·.subject) (fun d a => { d with subject := some a })
      Subject.readJson,
    recordField "match_type" (·.polarity) (fun d a => { d with polarity := some a })
      Polarity.readJson,
    recordField "pattern" (·.pattern) (fun d a => { d with pattern := some a }) readString,
    recordField "options" (·.options) (fun d a => { d with options := some a })
      (readList readString)]
  start := {}
  finish := Draft.finish

/-- Reads a rule from JSON. -/
def ofJson (text : String) : Except Fault Rule :=
  readDocument recordType.readRecord text

end Rule

/-! ### Schema objects -/

namespace SchemaObject

/-- A schema object as JSON. -/
def json (object : SchemaObject) : Value :=
  .object [
    ("object_type", .string object.objectType),
    ("schema", .string object.schema),
    ("name", .string object.name),
    ("multi_part_name", .string object.multiPartName),
    ("containing_schema", object.containingSchema.elim .null .string)]

/-- What has been read of a schema object. -/
structure Draft where
  objectType : Option String := none
  schema : Option String := none
  name : Option String := none
  multiPartName : Option String := none
  containingSchema : Option (Option String) := none

/-- The schema object, if all of it has been read.  It need not have a containing schema. -/
def Draft.finish (draft : Draft) : Except Fault SchemaObject := do
  return {
    objectType := ← required "object_type" draft.objectType
    schema := ← required "schema" draft.schema
    name := ← required "name" draft.name
    multiPartName := ← required "multi_part_name" draft.multiPartName
    containingSchema := draft.containingSchema.getD none }

/-- Schema objects as records. -/
def recordType : RecordType Draft SchemaObject where
  name := "SchemaObject"
  fields := [
    recordField "object_type" (·.objectType) (fun d a => { d with objectType := some a })
      readString,
    recordField "schema" (·.schema) (fun d a => { d with schema := some a }) readString,
    recordField "name" (·.name) (fun d a => { d with name := some a }) readString,
    recordField "multi_part_name" (·.multiPartName)
      (fun d a => { d with multiPartName := some a }) readString,
    recordField "containing_schema" (·.containingSchema)
      (fun d a => { d with containingSchema := some a }) readString?]
  start := {}
  finish := Draft.finish

/-- Reads a schema object from JSON. -/
def ofJson (text : String) : Except Fault SchemaObject :=
  readDocument recordType.readRecord text

end SchemaObject

end SchemaFilter
