import SchemaFilter.Filter.Filter

/-!
# Sets of filters

* `FilterSet` — filters in order;
* `FilterSet.ofRules`, `FilterSet.parse` — the set of some rules, and of some texts;
* `FilterSet.verdicts` — what each rule says of an object;
* `FilterSet.keeps` — what a policy makes of the verdicts.
-/

namespace SchemaFilter

/-- Filters in order. -/
structure FilterSet where
  filters : List Filter := []

/-- What is wrong with a text or with its pattern. -/
inductive RuleError where
  | parse (error : ParseError)
  | filter (error : FilterError)
  deriving DecidableEq, Repr

/-- The wording of an error. -/
def RuleError.message : RuleError → String
  | parse error => error.message
  | filter error => error.message

/-- What is wrong with a list of rules: the first bad one, by its place in the list. -/
structure SetError where
  index : Nat
  source : RuleError
  deriving DecidableEq, Repr

/-- The wording of an error. -/
def SetError.message (e : SetError) : String :=
  "rule " ++ toString e.index ++ ": " ++ e.source.message

/-- What one rule of a set says of an object. -/
structure Verdict where
  index : Nat
  rule : Rule
  applies : Bool
  deriving DecidableEq, Repr

/-- A policy decides from the verdicts whether an object is kept. -/
abbrev Policy := SchemaObject → List Verdict → Bool

namespace FilterSet

/-- The filters of some rules, of which the first has the place `index`. -/
def compileFrom (index : Nat) : List Rule → Except SetError (List Filter)
  | [] => .ok []
  | rule :: rules => do
    let filter ← (Filter.ofRule rule).mapError fun e => ⟨index, .filter e⟩
    let filters ← compileFrom (index + 1) rules
    return filter :: filters

/-- The set of some rules. -/
def ofRules (rules : List Rule) : Except SetError FilterSet :=
  (compileFrom 0 rules).map FilterSet.mk

/-- Reads rules, of which the first has the place `index`, up to the first that is rejected. -/
def parseFrom (index : Nat) : List String → Traced Event (Except SetError (List Rule))
  | [] => pure (.ok [])
  | raw :: raws => do
    match ← Rule.parseTraced raw with
    | .error e => return .error ⟨index, .parse e⟩
    | .ok rule => return (← parseFrom (index + 1) raws).map (rule :: ·)

/-- The set of the rules that some texts spell.  All are read before any pattern is looked at. -/
def parse (raws : List String) : Traced Event (Except SetError FilterSet) := do
  return (← parseFrom 0 raws) >>= ofRules

/-- The number of rules. -/
def size (set : FilterSet) : Nat := set.filters.length

/-- Are there no rules? -/
def isEmpty (set : FilterSet) : Bool := set.filters.isEmpty

/-- The rules in order. -/
def rules (set : FilterSet) : List Rule := set.filters.map (·.rule)

/-- The verdicts of some filters on an object, of which the first has the place `index`. -/
def verdictsFrom (object : SchemaObject) (index : Nat) :
    List Filter → Traced Event (List Verdict)
  | [] => pure []
  | filter :: filters => do
    let applies ← filter.appliesTraced object
    let verdicts ← verdictsFrom object (index + 1) filters
    return ⟨index, filter.rule, applies⟩ :: verdicts

/-- The verdicts of every rule on an object, told to an observer. -/
def verdictsTraced (set : FilterSet) (object : SchemaObject) : Traced Event (List Verdict) :=
  verdictsFrom object 0 set.filters

/-- The verdicts of every rule on an object. -/
def verdicts (set : FilterSet) (object : SchemaObject) : List Verdict :=
  (set.verdictsTraced object).value

/-- Does a policy keep an object?  The decision is told to an observer, after the verdicts. -/
def keepsTraced (set : FilterSet) (policy : Policy) (object : SchemaObject) :
    Traced Event Bool := do
  let verdicts ← set.verdictsTraced object
  let kept := policy object verdicts
  Traced.emit (Event.objectDecided object kept (verdicts.countP (·.applies)))
  return kept

/-- Does a policy keep an object? -/
def keeps (set : FilterSet) (policy : Policy) (object : SchemaObject) : Bool :=
  (set.keepsTraced policy object).value

/-- The verdicts on each of some objects. -/
def verdictsAll (set : FilterSet) (objects : List SchemaObject) : List (List Verdict) :=
  objects.map set.verdicts

/-- The decisions of a policy on each of some objects. -/
def keepsAll (set : FilterSet) (policy : Policy) (objects : List SchemaObject) : List Bool :=
  objects.map (set.keeps policy)

end FilterSet

end SchemaFilter
