import SchemaFilter.Rule.Content
import SchemaFilter.Text.Word

/-!
# Reading rules

A rule is written as an operation, a subject, perhaps an exclamation mark, and a content in
parentheses, with nothing between them.

* `ParseError` — why a text is no rule, and which part of it shows that;
* `Rule.parse` — reads a rule;
* `ParseError.message` — the wording of an error.
-/

namespace SchemaFilter

/-! ### Errors -/

/-- The ways in which a text can fail to be a rule. -/
inductive ParseErrorKind where
  | unknownOperation
  | unknownSubject
  | malformed
  deriving DecidableEq, Repr

namespace ParseErrorKind

/-- Every kind. -/
def all : List ParseErrorKind := [unknownOperation, unknownSubject, malformed]

/-- The wording of a kind. -/
def text : ParseErrorKind → String
  | unknownOperation => "unknown operation"
  | unknownSubject => "unknown filter type"
  | malformed => "malformed rule syntax"

end ParseErrorKind

/-- Why a text is no rule: the text without the blanks around it, and the part of it that is
    refused. -/
structure ParseError where
  kind : ParseErrorKind
  rule : String
  fragment : String
  deriving DecidableEq, Repr

/-- The wording of an error. -/
def ParseError.message (e : ParseError) : String :=
  match e.kind with
  | .unknownOperation =>
    "filter rule '" ++ e.rule ++ "' has an unknown operation '" ++ e.fragment ++
      "': expected 'Ignore' or 'Keep'"
  | .unknownSubject =>
    "filter rule '" ++ e.rule ++ "' has an unknown filter type '" ++ e.fragment ++
      "': expected 'Schema', 'Type', 'Name' or 'MultiPartName'"
  | .malformed =>
    "filter rule '" ++ e.rule ++ "' is malformed near '" ++ e.fragment ++
      "': expected a non-empty '(...)' pattern"

namespace Rule

/-! ### The parts of a rule -/

/-- The operation that a text begins with, and what follows. -/
def takeOperation? (text : List Char) : Option (Operation × List Char) :=
  Operation.all.findSome? fun op => (stripPrefix? op.keyword.toList text).map (op, ·)

/-- Does a text begin with a character that would continue a word? -/
def continuesWord (text : List Char) : Bool :=
  text.head?.any isWordChar

/-- The subject that a text begins with, and what follows.  A keyword counts only where the next
    character does not continue it. -/
def takeSubject? (text : List Char) : Option (Subject × List Char) :=
  Subject.byKeywordLength.findSome? fun subject =>
    ((stripPrefix? subject.keyword.toList text).filter (!continuesWord ·)).map (subject, ·)

/-- The polarity that a text begins with, and what follows. -/
def takePolarity : List Char → Polarity × List Char
  | '!' :: text => (.negative, text)
  | text => (.positive, text)

/-- The content of a text in parentheses, unless it is blank. -/
def takeContent? (text : List Char) : Option (List Char) :=
  (betweenParens? text).filter (!allBlank ·)

/-! ### Reading -/

/-- Reads a rule without blanks around it.  The error tells what kind it is of, and the part of the
    text that is refused. -/
def parseChars (text : List Char) : Except (ParseErrorKind × List Char) Rule :=
  match takeOperation? text with
  | none => .error (.unknownOperation, leadingWord text)
  | some (operation, text) =>
    match takeSubject? text with
    | none => .error (.unknownSubject, leadingWord text)
    | some (declared, text) =>
      let (polarity, text) := takePolarity text
      match takeContent? text with
      | none => .error (.malformed, text)
      | some content =>
        let { subject, pattern, options } := Content.read declared content
        if allBlank pattern.toList then .error (.malformed, content)
        else .ok { operation, subject, polarity, pattern, options }

/-- Reads a rule. -/
def parse (raw : String) : Except ParseError Rule :=
  let text := trim raw.toList
  (parseChars text).mapError fun (kind, fragment) =>
    { kind, rule := .ofList text, fragment := .ofList fragment }

end Rule

end SchemaFilter
