import SchemaFilter.Rule.Basic
import SchemaFilter.Text.Blank
import SchemaFilter.Text.Split

/-!
# What stands between the parentheses of a rule

* `Content` — a subject, a pattern and options;
* `Content.read` — reads them from the text between the parentheses.
-/

namespace SchemaFilter

/-- What the text between the parentheses of a rule says. -/
structure Content where
  subject : Subject
  pattern : String
  options : List String := []
  deriving DecidableEq, Repr

namespace Content

/-- What separates a pattern from its options, and parts of names from one another. -/
def separator : Char := ','

/-- Is the text taken as it is, and not cut at separators?  Multi-part names hold separators, and a
    name that holds one is a multi-part name. -/
def isVerbatim (declared : Subject) (content : List Char) : Bool :=
  match declared with
  | .multiPartName => true
  | .name => content.contains separator
  | .schema | .objectType => false

/-- Reads the text between the parentheses of a rule that declares a subject.  Of a text that is
    cut at separators, the first piece is the pattern and the others that are not blank are the
    options, all without the blanks around them. -/
def read (declared : Subject) (content : List Char) : Content :=
  if isVerbatim declared content then
    { subject := .multiPartName, pattern := .ofList content }
  else
    let pieces := (piecesAt separator content).map trim
    { subject := declared
      pattern := .ofList (pieces.headD [])
      options := (pieces.tail.filter (· ≠ [])).map String.ofList }

end Content

end SchemaFilter
