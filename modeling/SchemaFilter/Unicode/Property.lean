import SchemaFilter.Unicode.Category
import SchemaFilter.Unicode.PropertyTable

/-!
# Character properties

The Unicode properties that hold or do not hold of a character.  Most follow from the general
categories and a few characters more.

* `Property.alphabetic`, `Property.lowercase`, … — the characters with a property;
* `Property.word` — the characters of words;
* `Property.table` — every property with the names that it goes by;
* `Property.otherNames` — the properties that this library knows by name only.
-/

namespace SchemaFilter

namespace Property

open Category

/-- `ASCII_Hex_Digit`. -/
def asciiHexDigit : CharSet := .ofHex "30-39 41-46 61-66"

/-- `White_Space`. -/
def whiteSpace : CharSet :=
  .ofHex "9-D 20 85 A0 1680 2000-200A 2028-2029 202F 205F 3000"

/-- `Lowercase`. -/
def lowercase : CharSet := lowercaseLetter.union otherLowercase

/-- `Uppercase`. -/
def uppercase : CharSet := uppercaseLetter.union otherUppercase

/-- `Cased`. -/
def cased : CharSet := .unions [lowercase, uppercase, titlecaseLetter]

/-- `Alphabetic`. -/
def alphabetic : CharSet :=
  .unions [letter, letterNumber, otherAlphabetic, otherLowercase, otherUppercase]

/-- `Math`. -/
def math : CharSet := mathSymbol.union otherMath

/-- `Case_Ignorable`. -/
def caseIgnorable : CharSet :=
  .unions [nonspacingMark, enclosingMark, format, modifierLetter, modifierSymbol,
    caseIgnorableRest]

/-- `Changes_When_Casefolded`. -/
def changesWhenCasefolded : CharSet :=
  (changesWhenLowercased.diff lowercasedNotCasefolded).union casefoldedNotLowercased

/-- `Changes_When_Titlecased`. -/
def changesWhenTitlecased : CharSet :=
  (changesWhenUppercased.diff uppercasedNotTitlecased).union titlecasedNotUppercased

/-- `Changes_When_Casemapped`. -/
def changesWhenCasemapped : CharSet :=
  .unions [changesWhenLowercased, changesWhenUppercased, changesWhenTitlecased]

/-- `Grapheme_Extend`. -/
def graphemeExtend : CharSet :=
  .unions [nonspacingMark, enclosingMark, otherGraphemeExtend]

/-- `Grapheme_Base`. -/
def graphemeBase : CharSet :=
  (CharSet.unions [control, format, unassigned, privateUse, surrogate, lineSeparator,
    paragraphSeparator, graphemeExtend]).complement

/-- `ID_Compat_Math_Continue`. -/
def idCompatMathContinue : CharSet := idCompatMathStart.union idCompatMathContinueRest

/-- `ID_Start`. -/
def idStart : CharSet :=
  (CharSet.unions [letter, letterNumber, otherIdStart]).diff
    (patternSyntax.union patternWhiteSpace)

/-- `ID_Continue`. -/
def idContinue : CharSet :=
  .unions [idStart, nonspacingMark, spacingMark, decimalNumber, connectorPunctuation,
    otherIdContinue]

/-- `XID_Start`. -/
def xidStart : CharSet := idStart.diff xidStartRemoved

/-- `XID_Continue`. -/
def xidContinue : CharSet := idContinue.diff xidContinueRemoved

/-- The characters of words: alphabetic ones, marks, decimal digits, connectors and joiners. -/
def word : CharSet :=
  .unions [alphabetic, mark, decimalNumber, connectorPunctuation, joinControl]

/-- A property: its names, the long one first, and the characters that have it. -/
structure Entry where
  names : List String
  members : CharSet

/-- Every property. -/
def table : List Entry := [
  ⟨["ASCII_Hex_Digit", "AHex"], asciiHexDigit⟩,
  ⟨["Alphabetic", "Alpha"], alphabetic⟩,
  ⟨["Bidi_Control", "Bidi_C"], bidiControl⟩,
  ⟨["Bidi_Mirrored", "Bidi_M"], bidiMirrored⟩,
  ⟨["Case_Ignorable", "CI"], caseIgnorable⟩,
  ⟨["Cased"], cased⟩,
  ⟨["Changes_When_Casefolded", "CWCF"], changesWhenCasefolded⟩,
  ⟨["Changes_When_Casemapped", "CWCM"], changesWhenCasemapped⟩,
  ⟨["Changes_When_Lowercased", "CWL"], changesWhenLowercased⟩,
  ⟨["Changes_When_Titlecased", "CWT"], changesWhenTitlecased⟩,
  ⟨["Changes_When_Uppercased", "CWU"], changesWhenUppercased⟩,
  ⟨["Dash"], dash⟩,
  ⟨["Default_Ignorable_Code_Point", "DI"], defaultIgnorableCodePoint⟩,
  ⟨["Deprecated", "Dep"], Property.deprecated⟩,
  ⟨["Diacritic", "Dia"], diacritic⟩,
  ⟨["Emoji"], emoji⟩,
  ⟨["Emoji_Component", "EComp"], emojiComponent⟩,
  ⟨["Emoji_Modifier", "EMod"], emojiModifier⟩,
  ⟨["Emoji_Modifier_Base", "EBase"], emojiModifierBase⟩,
  ⟨["Emoji_Presentation", "EPres"], emojiPresentation⟩,
  ⟨["Extended_Pictographic", "ExtPict"], extendedPictographic⟩,
  ⟨["Extender", "Ext"], extender⟩,
  ⟨["Grapheme_Base", "Gr_Base"], graphemeBase⟩,
  ⟨["Grapheme_Extend", "Gr_Ext"], graphemeExtend⟩,
  ⟨["Grapheme_Link", "Gr_Link"], graphemeLink⟩,
  ⟨["Hex_Digit", "Hex"], hexDigit⟩,
  ⟨["Hyphen"], hyphen⟩,
  ⟨["IDS_Binary_Operator", "IDSB"], idsBinaryOperator⟩,
  ⟨["IDS_Trinary_Operator", "IDST"], idsTrinaryOperator⟩,
  ⟨["IDS_Unary_Operator", "IDSU"], idsUnaryOperator⟩,
  ⟨["ID_Compat_Math_Continue"], idCompatMathContinue⟩,
  ⟨["ID_Compat_Math_Start"], idCompatMathStart⟩,
  ⟨["ID_Continue", "IDC"], idContinue⟩,
  ⟨["ID_Start", "IDS"], idStart⟩,
  ⟨["Ideographic", "Ideo"], ideographic⟩,
  ⟨["Join_Control", "Join_C"], joinControl⟩,
  ⟨["Logical_Order_Exception", "LOE"], logicalOrderException⟩,
  ⟨["Lowercase", "Lower"], lowercase⟩,
  ⟨["Math"], math⟩,
  ⟨["Modifier_Combining_Mark", "MCM"], modifierCombiningMark⟩,
  ⟨["Noncharacter_Code_Point", "NChar"], noncharacterCodePoint⟩,
  ⟨["Other_Alphabetic", "OAlpha"], otherAlphabetic⟩,
  ⟨["Other_Default_Ignorable_Code_Point", "ODI"], otherDefaultIgnorableCodePoint⟩,
  ⟨["Other_Grapheme_Extend", "OGr_Ext"], otherGraphemeExtend⟩,
  ⟨["Other_ID_Continue", "OIDC"], otherIdContinue⟩,
  ⟨["Other_ID_Start", "OIDS"], otherIdStart⟩,
  ⟨["Other_Lowercase", "OLower"], otherLowercase⟩,
  ⟨["Other_Math", "OMath"], otherMath⟩,
  ⟨["Other_Uppercase", "OUpper"], otherUppercase⟩,
  ⟨["Pattern_Syntax", "Pat_Syn"], patternSyntax⟩,
  ⟨["Pattern_White_Space", "Pat_WS"], patternWhiteSpace⟩,
  ⟨["Prepended_Concatenation_Mark", "PCM"], prependedConcatenationMark⟩,
  ⟨["Quotation_Mark", "QMark"], quotationMark⟩,
  ⟨["Radical"], radical⟩,
  ⟨["Regional_Indicator", "RI"], regionalIndicator⟩,
  ⟨["Sentence_Terminal", "STerm"], sentenceTerminal⟩,
  ⟨["Soft_Dotted", "SD"], softDotted⟩,
  ⟨["Terminal_Punctuation", "Term"], terminalPunctuation⟩,
  ⟨["Unified_Ideograph", "UIdeo"], unifiedIdeograph⟩,
  ⟨["Uppercase", "Upper"], uppercase⟩,
  ⟨["Variation_Selector", "VS"], variationSelector⟩,
  ⟨["White_Space", "WSpace", "space"], whiteSpace⟩,
  ⟨["XID_Continue", "XIDC"], xidContinue⟩,
  ⟨["XID_Start", "XIDS"], xidStart⟩]

/-- The names of `General_Category` as a property. -/
def categoryNames : List String := ["General_Category", "gc"]

/-- The names of `Script` as a property. -/
def scriptNames : List String := ["Script", "sc"]

/-- The names of `Script_Extensions` as a property. -/
def scriptExtensionNames : List String := ["Script_Extensions", "scx"]

/-- The names of `Age` as a property. -/
def ageNames : List String := ["Age"]

/-- The names of `Grapheme_Cluster_Break` as a property. -/
def graphemeBreakNames : List String := ["Grapheme_Cluster_Break", "GCB"]

/-- The names of `Word_Break` as a property. -/
def wordBreakNames : List String := ["Word_Break", "WB"]

/-- The names of `Sentence_Break` as a property. -/
def sentenceBreakNames : List String := ["Sentence_Break", "SB"]

/-- The names of the properties whose characters this library does not list. -/
def otherNames : List String := [
  "Bidi_Class", "bc", "Bidi_Mirroring_Glyph", "bmg", "Bidi_Paired_Bracket", "bpb",
  "Bidi_Paired_Bracket_Type", "bpt", "Block", "blk", "Canonical_Combining_Class", "ccc",
  "Case_Folding", "cf", "Changes_When_NFKC_Casefolded", "CWKCF", "Composition_Exclusion", "CE",
  "Decomposition_Mapping", "dm", "Decomposition_Type", "dt", "East_Asian_Width", "ea",
  "Equivalent_Unified_Ideograph", "EqUIdeo", "Expands_On_NFC", "XO_NFC", "Expands_On_NFD",
  "XO_NFD", "Expands_On_NFKC", "XO_NFKC", "Expands_On_NFKD", "XO_NFKD", "FC_NFKC_Closure",
  "FC_NFKC", "Full_Composition_Exclusion", "Comp_Ex", "Hangul_Syllable_Type", "hst",
  "ISO_Comment", "isc", "Indic_Conjunct_Break", "InCB", "Indic_Positional_Category", "InPC",
  "Indic_Syllabic_Category", "InSC", "Jamo_Short_Name", "JSN", "Joining_Group", "jg",
  "Joining_Type", "jt", "Line_Break", "lb", "Lowercase_Mapping", "lc", "NFC_Quick_Check",
  "NFC_QC", "NFD_Quick_Check", "NFD_QC", "NFKC_Casefold", "NFKC_CF", "NFKC_Quick_Check",
  "NFKC_QC", "NFKC_Simple_Casefold", "NFKC_SCF", "NFKD_Quick_Check", "NFKD_QC", "Name", "na",
  "Name_Alias", "Numeric_Type", "nt", "Numeric_Value", "nv", "Simple_Case_Folding", "scf", "sfc",
  "Simple_Lowercase_Mapping", "slc", "Simple_Titlecase_Mapping", "stc",
  "Simple_Uppercase_Mapping", "suc", "Titlecase_Mapping", "tc", "Unicode_1_Name", "na1",
  "Uppercase_Mapping", "uc", "Vertical_Orientation", "vo", "kAccountingNumeric",
  "cjkAccountingNumeric", "kCompatibilityVariant", "cjkCompatibilityVariant", "kEH_Cat",
  "kEH_Desc", "kEH_HG", "kEH_IFAO", "kEH_JSesh", "kEH_NoMirror", "kEH_NoRotate", "kIICore",
  "cjkIICore", "kIRG_GSource", "cjkIRG_GSource", "kIRG_HSource", "cjkIRG_HSource",
  "kIRG_JSource", "cjkIRG_JSource", "kIRG_KPSource", "cjkIRG_KPSource", "kIRG_KSource",
  "cjkIRG_KSource", "kIRG_MSource", "cjkIRG_MSource", "kIRG_SSource", "cjkIRG_SSource",
  "kIRG_TSource", "cjkIRG_TSource", "kIRG_UKSource", "cjkIRG_UKSource", "kIRG_USource",
  "cjkIRG_USource", "kIRG_VSource", "cjkIRG_VSource", "kOtherNumeric", "cjkOtherNumeric",
  "kPrimaryNumeric", "cjkPrimaryNumeric", "kRSUnicode", "cjkRSUnicode", "Unicode_Radical_Stroke",
  "URS"]

end Property

end SchemaFilter
