import SchemaFilter.Pattern.Diagnostic
import SchemaFilter.Pattern.Meaning
import SchemaFilter.Pattern.Parse
import SchemaFilter.Pattern.Search
import SchemaFilter.Pattern.Size

/-!
# Patterns that can be searched for

* `Pattern.Refusal` — why a text is no pattern;
* `Pattern.compile` — the expression of a text.
-/

namespace SchemaFilter.Pattern

/-- Why a text is no pattern. -/
inductive Refusal where
  | defect (d : Defect)
  | tooLarge
  deriving DecidableEq, Repr

/-- The wording of a refusal, which shows the pattern. -/
def Refusal.message (pattern : String) : Refusal → String
  | defect d => d.render pattern.toList
  | tooLarge => "Compiled regex exceeds size limit of " ++ toString sizeLimit ++ " bytes."

/-- The expression of a text, if the text is a pattern and not too large. -/
def compile (pattern : String) : Except Refusal Expr :=
  match parse pattern.toList >>= Node.expr with
  | .error d => .error (.defect d)
  | .ok e => if e.isTooLarge then .error .tooLarge else .ok e

end SchemaFilter.Pattern
