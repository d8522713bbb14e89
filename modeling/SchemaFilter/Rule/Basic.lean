/-!
# Filter rules

A rule says of the objects of a database schema which of them it applies to: it names an attribute
of objects as its subject, a pattern that the attribute is searched for, and what is to be done with
the objects found.

* `Operation`, `Subject`, `Polarity` — the closed parts of a rule, with their keywords;
* `Rule` — a rule;
* `Rule.text` — the canonical text of a rule.
-/

namespace SchemaFilter

/-! ### Operations -/

/-- What is to be done with the objects that a rule applies to. -/
inductive Operation where
  | ignore
  | keep
  deriving DecidableEq, Repr

namespace Operation

/-- Every operation, in the order in which texts are compared with their keywords. -/
def all : List Operation := [ignore, keep]

/-- The word that a rule with the operation begins with. -/
def keyword : Operation → String
  | ignore => "Ignore"
  | keep => "Keep"

end Operation

/-! ### Subjects -/

/-- The attribute of an object that a rule looks at. -/
inductive Subject where
  | schema
  | objectType
  | name
  | multiPartName
  deriving DecidableEq, Repr

namespace Subject

/-- Every subject. -/
def all : List Subject := [schema, objectType, name, multiPartName]

/-- Every subject, the longest keyword first, so that no keyword hides a longer one. -/
def byKeywordLength : List Subject := [multiPartName, schema, objectType, name]

/-- The word for the subject in a rule. -/
def keyword : Subject → String
  | schema => "Schema"
  | objectType => "Type"
  | name => "Name"
  | multiPartName => "MultiPartName"

end Subject

/-! ### Polarity -/

/-- Does a rule apply where its pattern is found, or where it is not? -/
inductive Polarity where
  | positive
  | negative
  deriving DecidableEq, Repr

namespace Polarity

/-- Every polarity. -/
def all : List Polarity := [positive, negative]

/-- The polarity of a rule that does not say. -/
def standard : Polarity := positive

/-- Does the rule apply where its pattern is not found? -/
def isNegative : Polarity → Bool
  | positive => false
  | negative => true

/-- Does the rule apply, given whether its pattern is found? -/
def resolve : Polarity → (found : Bool) → Bool
  | positive, found => found
  | negative, found => !found

/-- What stands for the polarity in a rule, between the subject and the parenthesis. -/
def mark : Polarity → List Char
  | positive => []
  | negative => ['!']

/-- The word for the polarity in structured data. -/
def keyword : Polarity → String
  | positive => "DoesMatch"
  | negative => "DoesNotMatch"

end Polarity

/-! ### Rules -/

/-- A filter rule.  What its options mean depends on the subject. -/
structure Rule where
  operation : Operation
  subject : Subject
  polarity : Polarity := .standard
  pattern : String
  options : List String := []
  deriving DecidableEq, Repr

namespace Rule

/-- The rule that ignores the objects whose attribute matches a pattern. -/
def ignore (subject : Subject) (pattern : String) : Rule :=
  { operation := .ignore, subject, pattern }

/-- The rule that keeps the objects whose attribute matches a pattern. -/
def keep (subject : Subject) (pattern : String) : Rule :=
  { operation := .keep, subject, pattern }

/-- The rule with another polarity. -/
def withPolarity (rule : Rule) (polarity : Polarity) : Rule :=
  { rule with polarity }

/-- The rule with one option more, behind the others. -/
def withOption (rule : Rule) (option : String) : Rule :=
  { rule with options := rule.options ++ [option] }

/-- The schema that a rule about types is restricted to. -/
def qualifier? (rule : Rule) : Option String :=
  match rule.subject with
  | .objectType => rule.options.head?
  | .schema | .name | .multiPartName => none

/-- What stands between the parentheses of the canonical text. -/
def contentChars (rule : Rule) : List Char :=
  rule.pattern.toList ++ rule.options.flatMap fun option => [',', ' '] ++ option.toList

/-- The canonical text of a rule, as characters. -/
def chars (rule : Rule) : List Char :=
  rule.operation.keyword.toList ++ rule.subject.keyword.toList ++ rule.polarity.mark ++
    ['('] ++ rule.contentChars ++ [')']

/-- The canonical text of a rule. -/
def text (rule : Rule) : String :=
  .ofList rule.chars

end Rule

end SchemaFilter
