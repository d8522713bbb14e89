import SchemaFilter.Filter.SchemaObject
import SchemaFilter.Text.Blank

/-!
# Objects as arguments

An object is written as its type, a colon, and the parts of its name with dots between them.

* `ObjectArgument` — an object, and the text that it is written as;
* `ObjectArgument.parse` — reads one;
* `ObjectArgumentError` — why a text is none.
-/

namespace SchemaFilter

/-- An object with the text that it is written as. -/
structure ObjectArgument where
  label : String
  object : SchemaObject
  deriving DecidableEq, Repr

/-- The ways in which a text can fail to be an object. -/
inductive ObjectArgumentErrorKind where
  | missingType
  | emptyPart
  deriving DecidableEq, Repr

/-- Why a text is not an object. -/
structure ObjectArgumentError where
  kind : ObjectArgumentErrorKind
  text : String
  deriving DecidableEq, Repr

/-- The wording of an error. -/
def ObjectArgumentError.message (e : ObjectArgumentError) : String :=
  "object '" ++ e.text ++
    match e.kind with
    | .missingType => "' must have the form TYPE:PART[.PART...]"
    | .emptyPart => "' has an empty name part"

namespace ObjectArgument

/-- What stands between the type and the name. -/
def typeSeparator : Char := ':'

/-- What stands between the parts of the name. -/
def partSeparator : Char := '.'

/-- The object that a text spells, without the blanks around its type and its parts. -/
def parseChars (text : List Char) : Except ObjectArgumentErrorKind SchemaObject :=
  match cutAt? [typeSeparator] text with
  | none => .error .missingType
  | some (objectType, name) =>
    if allBlank objectType then .error .missingType
    else
      let parts := piecesAt partSeparator name
      if parts.any allBlank then .error .emptyPart
      else
        match SchemaObject.ofParts? (.ofList (trim objectType))
            (parts.map fun part => .ofList (trim part)) with
        | none => .error .emptyPart
        | some object => .ok object

/-- Reads an object. -/
def parse (text : String) : Except ObjectArgumentError ObjectArgument :=
  match parseChars text.toList with
  | .error kind => .error ⟨kind, text⟩
  | .ok object => .ok ⟨text, object⟩

end ObjectArgument

end SchemaFilter
