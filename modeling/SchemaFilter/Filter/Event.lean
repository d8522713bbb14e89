import SchemaFilter.Filter.SchemaObject
import SchemaFilter.Filter.Traced
import SchemaFilter.Rule.Parse

/-!
# Events

What the library tells an observer while it works.  An event has a level, a target, a message and
fields.

* `Event` — the events;
* `Event.level`, `Event.target`, `Event.message`, `Event.fields` — how they are told;
* `Event.fieldNames` — the names of what is told, the message among it;
* `Rule.parseTraced` — reads a rule and tells how it went.
-/

namespace SchemaFilter

/-- How much an event matters. -/
inductive Level where
  | trace
  | debug
  | info
  | warn
  | error
  deriving DecidableEq, Repr

namespace Level

/-- The word for a level. -/
def keyword : Level → String
  | trace => "TRACE"
  | debug => "DEBUG"
  | info => "INFO"
  | warn => "WARN"
  | error => "ERROR"

/-- A number that is the greater the more an event matters. -/
def rank : Level → Nat
  | trace => 0
  | debug => 1
  | info => 2
  | warn => 3
  | error => 4

end Level

/-- The value of a field. -/
inductive FieldValue where
  | text (value : String)
  | flag (value : Bool)
  | count (value : Nat)
  deriving DecidableEq, Repr

/-- The text of a value. -/
def FieldValue.render : FieldValue → String
  | text value => value
  | flag true => "true"
  | flag false => "false"
  | count value => toString value

/-- A field. -/
structure Field where
  name : String
  value : FieldValue
  deriving DecidableEq, Repr

/-- An event.  `found` tells whether the pattern of a rule was found, and the qualifier satisfied;
    `source` is a source of rules, as text. -/
inductive Event where
  | ruleParsed (text : String) (rule : Rule)
  | ruleRejected (error : ParseError)
  | ruleEvaluated (object : SchemaObject) (rule : Rule) (found applies : Bool)
  | objectDecided (object : SchemaObject) (kept : Bool) (appliedRules : Nat)
  | warned (message : String)
  | rulesLoaded (source : String) (rules : Nat)
  | evaluating (rules objects : Nat) (json : Bool)
  deriving DecidableEq, Repr

namespace Event

/-- The target of events about rules. -/
def filterTarget : String := "schema_filter::filter"

/-- The target of events about the command. -/
def commandTarget : String := "schema_filter::cli"

/-- How much an event matters. -/
def level : Event → Level
  | ruleParsed .. | ruleRejected .. | rulesLoaded .. | evaluating .. => .debug
  | ruleEvaluated .. => .trace
  | objectDecided .. => .info
  | warned .. => .warn

/-- What an event is about. -/
def target : Event → String
  | ruleParsed .. | ruleRejected .. | ruleEvaluated .. | objectDecided .. | warned .. =>
    filterTarget
  | rulesLoaded .. | evaluating .. => commandTarget

/-- What happened. -/
def message : Event → String
  | ruleParsed .. => "rule_parsed"
  | ruleRejected .. => "rule_rejected"
  | ruleEvaluated .. => "rule_evaluate"
  | objectDecided .. => "object_decision"
  | warned message => message
  | rulesLoaded .. => "loaded filter rules"
  | evaluating .. => "evaluating filter rules"

/-- With what it happened. -/
def fields : Event → List Field
  | ruleParsed text rule => [
      ⟨"rule", .text text⟩,
      ⟨"operation", .text rule.operation.keyword⟩,
      ⟨"filter_type", .text rule.subject.keyword⟩,
      ⟨"negated", .flag rule.polarity.isNegative⟩]
  | ruleRejected e => [
      ⟨"rule", .text e.rule⟩,
      ⟨"kind", .text e.kind.text⟩,
      ⟨"fragment", .text e.fragment⟩]
  | ruleEvaluated object rule found applies => [
      ⟨"object", .text object.multiPartName⟩,
      ⟨"pattern", .text rule.pattern⟩,
      ⟨"matched", .flag found⟩,
      ⟨"applies", .flag applies⟩]
  | objectDecided object kept appliedRules => [
      ⟨"object", .text object.multiPartName⟩,
      ⟨"kept", .flag kept⟩,
      ⟨"applied_rules", .count appliedRules⟩]
  | warned _ => []
  | rulesLoaded source rules => [⟨"source", .text source⟩, ⟨"rules", .count rules⟩]
  | evaluating rules objects json => [
      ⟨"rules", .count rules⟩,
      ⟨"objects", .count objects⟩,
      ⟨"json", .flag json⟩]

/-- The name of the field that holds the message. -/
def messageField : String := "message"

/-- The names of all fields. -/
def fieldNames (event : Event) : List String :=
  messageField :: event.fields.map (·.name)

end Event

/-! ### Reading rules -/

/-- Reads a rule, and tells how it went. -/
def Rule.parseTraced (raw : String) : Traced Event (Except ParseError Rule) :=
  let result := Rule.parse raw
  ⟨result,
    [match result with
      | .ok rule => .ruleParsed (trimmed raw) rule
      | .error e => .ruleRejected e]⟩

end SchemaFilter
