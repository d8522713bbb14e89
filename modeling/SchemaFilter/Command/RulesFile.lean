import SchemaFilter.Text.Blank
import SchemaFilter.Text.Split
import SchemaFilter.Text.Utf8

/-!
# Rules files

A rules file holds one rule per line.  Lines that are blank, and lines that begin with a comment
mark, say nothing.

* `RulesFile.rulesOfLines` — the rules on some lines;
* `RulesFile.rules` — the rules in the bytes of a file.
-/

namespace SchemaFilter.RulesFile

/-- The characters that a comment begins with. -/
def commentMarks : List Char := ['#', ';']

/-- Does a line without blanks around it hold a rule?  It does unless it is empty or a comment. -/
def holdsRule (line : List Char) : Bool :=
  match line with
  | [] => false
  | c :: _ => !commentMarks.contains c

/-- The rules on some lines, without the blanks around them. -/
def rulesOfLines (lines : List (List Char)) : List String :=
  ((lines.map trim).filter holdsRule).map String.ofList

/-- The byte that ends a line. -/
def newline : UInt8 := 10

/-- The rules in the bytes of a file.  Lines are cut before they are read as text. -/
def rules (bytes : Bytes) : List String :=
  rulesOfLines ((piecesAt newline bytes).map decode)

end SchemaFilter.RulesFile
