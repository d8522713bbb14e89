import SchemaFilter.Filter.Event
import SchemaFilter.Pattern.Meaning
import SchemaFilter.Pattern.Parse
import SchemaFilter.Text.Blank
import SchemaFilter.Text.Split
import SchemaFilter.Text.Word

/-!
# Directives

A directive says of some events from which level on they are logged.  In full it is written
`target[span{field=value}]=level`, and most of that may be left out.

* `FieldTest`, `Directive` — what a directive asks for;
* `Directive.level?` — the levels that can be written;
* `FieldTest.parse?`, `Directive.parse?` — read directives;
* `Directive.covers` — is an event among those of a directive?
* `Directive.outranks` — does a directive count more than one in front of it?
-/

namespace SchemaFilter

/-- There has to be a field with the name, and its value has to match if one is given. -/
structure FieldTest where
  name : List Char
  value? : Option (List Char) := none
  deriving DecidableEq, Repr

/-- The events of the targets that begin with `scope` are logged if they matter as much as `least`,
    and not at all if there is no such level.  They may have to be told in a span with some name, or
    to have a field. -/
structure Directive where
  scope : List Char := []
  span? : Option (List Char) := none
  field? : Option FieldTest := none
  least : Option Level
  deriving DecidableEq, Repr

/-! ### Numbers and levels -/

namespace Directive

/-- Is a text made of digits? -/
def isDigits (text : List Char) : Bool :=
  text ≠ [] && text.all Char.isDigit

/-- A text without the sign that it may begin with. -/
def withoutSign : List Char → List Char
  | '+' :: text | '-' :: text => text
  | text => text

/-- The number that digits spell, perhaps with a plus sign in front of them. -/
def number? (text : List Char) : Option Nat :=
  let digits := (stripPrefix? ['+'] text).getD text
  if isDigits digits then
    some (digits.foldl (fun n c => n * 10 + (c.toNat - '0'.toNat)) 0)
  else none

/-- The numbers that are written in letters. -/
def namedNumbers : List String := ["inf", "infinity", "nan"]

/-- Is a text a number?  There may be a point before, behind or among its digits, and an exponent
    behind them. -/
def isNumber (text : List Char) : Bool :=
  let unsigned := withoutSign text
  let (mantissa, power) := unsigned.span fun c => c ≠ 'e' && c ≠ 'E'
  namedNumbers.any (unsigned.map Char.toLower = ·.toList) ||
    isDigits (mantissa.erase '.') && (power = [] || isDigits (withoutSign power.tail))

/-- The names of levels, by their numbers.  The first is for no level at all. -/
def levels : List (String × Option Level) := [
  ("off", none),
  ("error", some .error),
  ("warn", some .warn),
  ("info", some .info),
  ("debug", some .debug),
  ("trace", some .trace)]

/-- The level with a name, in capitals or not, or with a number. -/
def level? (text : List Char) : Option (Option Level) :=
  match number? text with
  | some n => levels[n]?.map (·.2)
  | none => (levels.find? fun (name, _) => text.map Char.toLower = name.toList).map (·.2)

end Directive

/-! ### Fields -/

namespace FieldTest

/-- Is a text a pattern that a value can be compared with?  There may be no conditions about the
    words of Unicode in it. -/
def isPattern (text : List Char) : Bool :=
  (Pattern.parse text >>= Pattern.Node.expr).toOption.any fun e =>
    !e.anyLook (·.wordKind? = some .unicode)

/-- Reads what stands in braces: the name of a field, perhaps with a value behind it, which is a
    number or a pattern. -/
def parse? (text : List Char) : Option FieldTest :=
  match piecesAt '=' text with
  | [] | [[]] => none
  | [name] => some { name }
  | name :: value :: _ =>
    if Directive.isNumber value || isPattern value then some { name, value? := some value }
    else none

end FieldTest

/-! ### Reading -/

namespace Directive

/-- The characters that a directive may begin with, besides letters and digits. -/
def openers : List Char := ['-', ':', '_', '[']

/-- May a text begin a directive? -/
def opens (text : List Char) : Bool :=
  text.head?.any fun c => isLetterOrDigit c || openers.contains c

/-- Reads what stands in brackets, from behind the first of them on: the name of a span, or a field
    in braces, or both.  What follows comes with it. -/
def takeBrackets? (text : List Char) :
    Option ((Option (List Char) × Option FieldTest) × List Char) :=
  match text.span fun c => c ≠ ']' && c ≠ '{' with
  | (name, ']' :: behind) => some ((some name, none), behind)
  | (name, '{' :: inner) =>
    match inner.span (· ≠ '}') with
    | (field, '}' :: ']' :: behind) =>
      (FieldTest.parse? field).map fun test =>
        ((if name = [] then none else some name, some test), behind)
    | _ => none
  | _ => none

/-- Reads the end of a directive, where a level may stand behind an equals sign.  Without one all
    events are logged.  In a directive with blanks in front of it there can be none. -/
def takeLevel? (indented : Bool) : List Char → Option (Option Level)
  | '=' :: level =>
    if indented then none
    else if level = [] then some (some .trace)
    else level? level
  | behind => if allBlank behind then some (some .trace) else none

/-- Reads a directive.  One that is a word and no level names targets. -/
def parse? (text : List Char) : Option Directive :=
  let indented := text.head?.any isBlank
  if !opens (trim text) then none
  else
    match text.span fun c => c ≠ '=' && c ≠ '[' with
    | (_, []) =>
      match level? text with
      | some least => some { least }
      | none => some { scope := text, least := some .trace }
    | (scope, '[' :: inner) => do
      let ((span?, field?), behind) ← takeBrackets? inner
      let least ← takeLevel? indented behind
      return { scope, span?, field?, least }
    | (scope, behind) => (takeLevel? indented behind).map fun least => { scope, least }

/-! ### Events of a directive -/

/-- Is an event among those of a directive?  None is told in a span, and of fields only spans have
    their values compared, so that there are no events of a directive that asks for either. -/
def covers (directive : Directive) (event : Event) : Bool :=
  directive.scope.isPrefixOf event.target.toList && directive.span?.isNone &&
    directive.field?.all fun test =>
      test.value?.isNone && event.fieldNames.any (·.toList = test.name)

/-- The name of the field that a directive asks for, if it does. -/
def fieldName (directive : Directive) : List Char :=
  directive.field?.elim [] (·.name)

/-- Of two directives with an event in common, does the one behind count more?  It does if it has
    the longer scope; or an equal one, and no field that comes before the field of the other. -/
def outranks (directive other : Directive) : Bool :=
  if directive.scope.length = other.scope.length then
    !directive.fieldName.lex other.fieldName fun c d => c.toNat < d.toNat
  else other.scope.length < directive.scope.length

end Directive

end SchemaFilter
