import SchemaFilter.Unicode.CategoryTable

/-!
# General categories and their groups

* `Category.letter`, `Category.mark`, … — the groups that a first letter names;
* `Category.unassigned` — what no table lists;
* `Category.table` — every category and group with the names that it goes by.
-/

namespace SchemaFilter

namespace Category

/-- `L`: the letters. -/
def letter : CharSet :=
  .unions [uppercaseLetter, lowercaseLetter, titlecaseLetter, modifierLetter, otherLetter]

/-- `LC`: the letters that come in cases. -/
def casedLetter : CharSet :=
  .unions [uppercaseLetter, lowercaseLetter, titlecaseLetter]

/-- `M`: the combining marks. -/
def mark : CharSet :=
  .unions [nonspacingMark, spacingMark, enclosingMark]

/-- `N`: the numbers. -/
def number : CharSet :=
  .unions [decimalNumber, letterNumber, otherNumber]

/-- `P`: the punctuation. -/
def punctuation : CharSet :=
  .unions [connectorPunctuation, dashPunctuation, openPunctuation, closePunctuation,
    initialPunctuation, finalPunctuation, otherPunctuation]

/-- `S`: the symbols. -/
def symbol : CharSet :=
  .unions [mathSymbol, currencySymbol, modifierSymbol, otherSymbol]

/-- `Z`: the separators. -/
def separator : CharSet :=
  .unions [spaceSeparator, lineSeparator, paragraphSeparator]

/-- The code points that are halves of characters in UTF-16, and no characters. -/
def surrogate : CharSet :=
  .range 0xD800 0xDFFF

/-- `Cn`: what has no category of its own. -/
def unassigned : CharSet :=
  (CharSet.unions [letter, mark, number, punctuation, symbol, separator, control, format,
    privateUse, surrogate]).complement

/-- `C`: everything else. -/
def other : CharSet :=
  .unions [control, format, unassigned, privateUse]

/-- A category or group: its names, the long one first, and its characters. -/
structure Entry where
  names : List String
  members : CharSet

/-- Every category and group. -/
def table : List Entry := [
  ⟨["Cased_Letter", "LC"], casedLetter⟩,
  ⟨["Close_Punctuation", "Pe"], closePunctuation⟩,
  ⟨["Connector_Punctuation", "Pc"], connectorPunctuation⟩,
  ⟨["Control", "Cc", "cntrl"], control⟩,
  ⟨["Currency_Symbol", "Sc"], currencySymbol⟩,
  ⟨["Dash_Punctuation", "Pd"], dashPunctuation⟩,
  ⟨["Decimal_Number", "Nd", "digit"], decimalNumber⟩,
  ⟨["Enclosing_Mark", "Me"], enclosingMark⟩,
  ⟨["Final_Punctuation", "Pf"], finalPunctuation⟩,
  ⟨["Format", "Cf"], format⟩,
  ⟨["Initial_Punctuation", "Pi"], initialPunctuation⟩,
  ⟨["Letter", "L"], letter⟩,
  ⟨["Letter_Number", "Nl"], letterNumber⟩,
  ⟨["Line_Separator", "Zl"], lineSeparator⟩,
  ⟨["Lowercase_Letter", "Ll"], lowercaseLetter⟩,
  ⟨["Mark", "M", "Combining_Mark"], mark⟩,
  ⟨["Math_Symbol", "Sm"], mathSymbol⟩,
  ⟨["Modifier_Letter", "Lm"], modifierLetter⟩,
  ⟨["Modifier_Symbol", "Sk"], modifierSymbol⟩,
  ⟨["Nonspacing_Mark", "Mn"], nonspacingMark⟩,
  ⟨["Number", "N"], number⟩,
  ⟨["Open_Punctuation", "Ps"], openPunctuation⟩,
  ⟨["Other", "C"], other⟩,
  ⟨["Other_Letter", "Lo"], otherLetter⟩,
  ⟨["Other_Number", "No"], otherNumber⟩,
  ⟨["Other_Punctuation", "Po"], otherPunctuation⟩,
  ⟨["Other_Symbol", "So"], otherSymbol⟩,
  ⟨["Paragraph_Separator", "Zp"], paragraphSeparator⟩,
  ⟨["Private_Use", "Co"], privateUse⟩,
  ⟨["Punctuation", "P", "punct"], punctuation⟩,
  ⟨["Separator", "Z"], separator⟩,
  ⟨["Space_Separator", "Zs"], spaceSeparator⟩,
  ⟨["Spacing_Mark", "Mc"], spacingMark⟩,
  ⟨["Symbol", "S"], symbol⟩,
  ⟨["Titlecase_Letter", "Lt"], titlecaseLetter⟩,
  ⟨["Unassigned", "Cn"], unassigned⟩,
  ⟨["Uppercase_Letter", "Lu"], uppercaseLetter⟩]

end Category

end SchemaFilter
