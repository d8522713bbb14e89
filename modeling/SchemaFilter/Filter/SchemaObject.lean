import SchemaFilter.Rule.Basic
import SchemaFilter.Text.Split

/-!
# Schema objects

* `SchemaObject` — what rules need to know of an object of a database schema;
* `SchemaObject.ofName`, `SchemaObject.ofParts?` — objects from their names;
* `SchemaObject.get` — the attributes that rules look at.
-/

namespace SchemaFilter

/-- An object of a database schema.  The containing schema is that of the object it belongs to, such
    as the table of an index. -/
structure SchemaObject where
  objectType : String
  schema : String
  name : String
  multiPartName : String
  containingSchema : Option String := none
  deriving DecidableEq, Repr

namespace SchemaObject

/-- What stands between the parts of a multi-part name. -/
def partSeparator : String := ","

/-- The parts of a name with separators between them. -/
def joinParts (parts : List String) : String :=
  .ofList (joinWith partSeparator.toList (parts.map String.toList))

/-- The object with a type, a schema and a name. -/
def ofName (objectType schema name : String) : SchemaObject :=
  { objectType, schema, name, multiPartName := joinParts [schema, name] }

/-- The object with a type and the parts of a name, of which the first is the schema and the last
    is the name. -/
def ofParts? (objectType : String) (parts : List String) : Option SchemaObject := do
  let schema ← parts.head?
  let name ← parts.getLast?
  return { objectType, schema, name, multiPartName := joinParts parts }

/-- The object with another multi-part name. -/
def withMultiPartName (object : SchemaObject) (multiPartName : String) : SchemaObject :=
  { object with multiPartName }

/-- The object, as one that belongs to an object of a schema. -/
def withContainingSchema (object : SchemaObject) (schema : String) : SchemaObject :=
  { object with containingSchema := some schema }

/-- The schema that counts: the containing one, or else the object's own. -/
def effectiveSchema (object : SchemaObject) : String :=
  object.containingSchema.getD object.schema

/-- The attribute of an object that a rule looks at. -/
def get (object : SchemaObject) : Subject → String
  | .schema => object.schema
  | .objectType => object.objectType
  | .name => object.name
  | .multiPartName => object.multiPartName

end SchemaObject

end SchemaFilter
