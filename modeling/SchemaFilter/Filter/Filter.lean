import SchemaFilter.Filter.Event
import SchemaFilter.Pattern.Compile

/-!
# Filters

* `Filter` — a rule together with the meaning of its pattern;
* `Filter.ofRule` — the filter of a rule whose pattern is good;
* `Filter.applies` — does the rule apply to an object?
* `Rule.appliesTo` — the same for a rule whose pattern may be bad.
-/

namespace SchemaFilter

/-- A rule with the expression of its pattern. -/
structure Filter where
  rule : Rule
  expr : Pattern.Expr
  compile_eq : Pattern.compile rule.pattern = .ok expr

/-- Why a rule is no filter: its pattern, and what is wrong with it. -/
structure FilterError where
  pattern : String
  refusal : Pattern.Refusal
  deriving DecidableEq, Repr

namespace FilterError

/-- What is wrong with the pattern. -/
def reason (e : FilterError) : String :=
  e.refusal.message e.pattern

/-- The wording of an error. -/
def message (e : FilterError) : String :=
  "failed to compile filter pattern '" ++ e.pattern ++ "': " ++ e.reason

end FilterError

/-- Are two texts equal when ASCII letters are taken without their case? -/
def eqIgnoringAsciiCase (a b : String) : Bool :=
  a.toList.map Char.toLower == b.toList.map Char.toLower

namespace Filter

/-- The filter of a rule. -/
def ofRule (rule : Rule) : Except FilterError Filter :=
  match h : Pattern.compile rule.pattern with
  | .ok expr => .ok ⟨rule, expr, h⟩
  | .error refusal => .error ⟨rule.pattern, refusal⟩

/-- Does an object lie in the schema that the rule is restricted to, if there is one? -/
def inScope (filter : Filter) (object : SchemaObject) : Bool :=
  filter.rule.qualifier?.all (eqIgnoringAsciiCase object.effectiveSchema)

/-- Is the pattern found in the attribute of an object, which must be in scope? -/
def finds (filter : Filter) (object : SchemaObject) : Bool :=
  filter.inScope object &&
    filter.expr.occursIn (object.get filter.rule.subject).toList

/-- Does the rule apply to an object? -/
def applies (filter : Filter) (object : SchemaObject) : Bool :=
  filter.rule.polarity.resolve (filter.finds object)

/-- Does the rule apply to an object?  Tells an observer what was found. -/
def appliesTraced (filter : Filter) (object : SchemaObject) : Traced Event Bool := do
  let found := filter.finds object
  let applies := filter.rule.polarity.resolve found
  Traced.emit (Event.ruleEvaluated object filter.rule found applies)
  return applies

end Filter

/-- Does a rule apply to an object?  Of a rule whose pattern is bad, nobody can say. -/
def Rule.appliesTo (rule : Rule) (object : SchemaObject) : Except FilterError Bool :=
  (Filter.ofRule rule).map (·.applies object)

end SchemaFilter
