import SchemaFilter.Command.ObjectArgument
import SchemaFilter.Filter.FilterSet
import SchemaFilter.Json.Forms

/-!
# What the command writes

* `Listing.ruleLines`, `Listing.rulesJson` — the rules of a set, as text and as JSON;
* `VerdictReport`, `ObjectReport` — what one rule, and all rules of a set, say of an object;
* `Listing.verdictLines`, `Listing.verdictsJson` — such reports, as text and as JSON;
* `Listing.text` — the one of these four that is asked for.
-/

namespace SchemaFilter

/-! ### Reports -/

/-- What one rule of a set says of an object, with the rule as text. -/
structure VerdictReport where
  index : Nat
  rule : String
  operation : Operation
  applies : Bool
  deriving DecidableEq, Repr

namespace VerdictReport

/-- The report of a verdict. -/
def ofVerdict (verdict : Verdict) : VerdictReport :=
  { index := verdict.index
    rule := verdict.rule.text
    operation := verdict.rule.operation
    applies := verdict.applies }

/-- A report as JSON. -/
def json (report : VerdictReport) : Json.Value :=
  .object [
    ("index", .number report.index),
    ("rule", .string report.rule),
    ("operation", .string report.operation.keyword),
    ("applies", .bool report.applies)]

end VerdictReport

/-- What the rules of a set say of an object. -/
structure ObjectReport where
  label : String
  object : SchemaObject
  verdicts : List VerdictReport
  deriving DecidableEq, Repr

namespace ObjectReport

/-- The report of the verdicts on an object. -/
def ofVerdicts (argument : ObjectArgument) (verdicts : List Verdict) : ObjectReport :=
  { label := argument.label
    object := argument.object
    verdicts := verdicts.map .ofVerdict }

/-- A report as JSON. -/
def json (report : ObjectReport) : Json.Value :=
  .object [
    ("label", .string report.label),
    ("object", report.object.json),
    ("verdicts", .array (report.verdicts.map VerdictReport.json))]

end ObjectReport

/-- What a set says of each of some objects. -/
def FilterSet.reports (set : FilterSet) (arguments : List ObjectArgument) : List ObjectReport :=
  List.zipWith ObjectReport.ofVerdicts arguments
    (set.verdictsAll (arguments.map (·.object)))

namespace Listing

/-! ### Lines -/

/-- A line. -/
def line (text : List Char) : List Char :=
  text ++ ['\n']

/-- The word for a truth value. -/
def boolText : Bool → String
  | true => "true"
  | false => "false"

/-- The rules of a set, each on a line. -/
def ruleLines (set : FilterSet) : String :=
  .ofList (set.rules.flatMap fun rule => line rule.chars)

/-- What stands on the line of a verdict. -/
def verdictCells (label : String) (verdict : VerdictReport) : List String :=
  [label, toString verdict.index, verdict.rule, boolText verdict.applies]

/-- Cells with tabs between them. -/
def row (cells : List String) : List Char :=
  joinWith ['\t'] (cells.map String.toList)

/-- The verdicts of a report, each on a line. -/
def reportLines (report : ObjectReport) : List Char :=
  report.verdicts.flatMap fun verdict => line (row (verdictCells report.label verdict))

/-- The verdicts of reports, each on a line. -/
def verdictLines (reports : List ObjectReport) : String :=
  .ofList (reports.flatMap reportLines)

/-! ### JSON -/

/-- A JSON document. -/
def document (value : Json.Value) : String :=
  .ofList (line value.pretty.toList)

/-- The rules of a set as a JSON document. -/
def rulesJson (set : FilterSet) : String :=
  document (.array (set.rules.map Rule.json))

/-- Reports as a JSON document. -/
def verdictsJson (reports : List ObjectReport) : String :=
  document (.array (reports.map ObjectReport.json))

/-! ### The listing that is asked for -/

/-- The rules of a set, or what they say of objects if there are some. -/
def text (json : Bool) (set : FilterSet) (arguments : List ObjectArgument) : String :=
  match arguments.isEmpty, json with
  | true, false => ruleLines set
  | true, true => rulesJson set
  | false, false => verdictLines (set.reports arguments)
  | false, true => verdictsJson (set.reports arguments)

end Listing

end SchemaFilter
