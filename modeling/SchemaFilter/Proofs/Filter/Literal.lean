import Mathlib.Logic.Basic
import SchemaFilter.Proofs.Filter.Dependence
import SchemaFilter.Proofs.Filter.Verdicts
import SchemaFilter.Proofs.Pattern.Literal
import SchemaFilter.Proofs.Pattern.Search
import SchemaFilter.Proofs.Rule.Canonical

/-!
# What plainly written rules say

The pattern of most rules is just the text to look for.  Such a rule applies to the objects whose
attribute has that text as a part, which must lie in the schema that the rule names, if it names
one; or, with an exclamation mark, to all other objects.

* `literalText` — how such a rule is written; `IsLiteral`, which patterns and schemas it may have;
* `literalRule`, `parse_literalText` — which rule that is;
* `FilterSet.exists_parse_singleton` — the set of one rule;
* `Filter.applies_iff_of_literal` — when a rule applies whose pattern is a text;
* `verdicts_literalText` — **the meaning** of rules that are written plainly.
-/

namespace SchemaFilter

/-! ### Sets of one rule -/

/-- A text of a rule with a good pattern makes a set, which gives one verdict on each object. -/
theorem FilterSet.exists_parse_singleton {raw : String} {rule : Rule} {expr : Pattern.Expr}
    (hparse : Rule.parse raw = .ok rule) (hcompile : Pattern.compile rule.pattern = .ok expr) :
    ∃ set, (parse [raw]).value = .ok set ∧
      ∀ object, set.verdicts object = [⟨0, rule, (Filter.mk rule expr hcompile).applies object⟩] :=
  ⟨⟨[⟨rule, expr, hcompile⟩]⟩, value_parse_eq_ok_iff.mpr (.cons hparse .nil),
    fun object => verdicts_eq_mapIdx _ object⟩

namespace Filter

variable {filter : Filter} {object : SchemaObject}

/-- A rule without restriction holds every object in scope, and a schema counts without its
    case. -/
theorem inScope_iff : filter.inScope object = true ↔
    ∀ schema ∈ filter.rule.qualifier?, SameIgnoringCase object.effectiveSchema schema := by
  unfold inScope
  cases filter.rule.qualifier? with
  | none => simp
  | some schema => simp [eqIgnoringAsciiCase_iff]

/-- When a rule applies whose pattern is a text. -/
theorem applies_iff_of_literal {word : List Char} (hexpr : filter.expr = .literal word) :
    filter.applies object = true ↔
      Xor (word <:+: (object.get filter.rule.subject).toList ∧
          ∀ schema ∈ filter.rule.qualifier?, SameIgnoringCase object.effectiveSchema schema)
        (filter.rule.polarity = .negative) := by
  rw [applies_iff, finds, Bool.and_eq_true, hexpr, Pattern.Expr.occursIn_literal, inScope_iff,
    and_comm]

end Filter

namespace Rule

variable {operation : Operation} {subject : Subject} {polarity : Polarity} {pattern : String}
  {schema? : Option String}

/-! ### How rules are written plainly -/

/-- The text of a rule with a pattern, and perhaps with a schema behind it. -/
def literalText (operation : Operation) (subject : Subject) (polarity : Polarity)
    (pattern : String) (schema? : Option String) : String :=
  operation.keyword ++ subject.keyword ++ .ofList polarity.mark ++ "(" ++ pattern ++
    schema?.elim "" (", " ++ ·) ++ ")"

/-- The letters and digits of ASCII, and the underscore. -/
def isIdentifierChar (c : Char) : Bool :=
  c.isAlphanum || c == '_'

/-- A rule about a subject can be written with the pattern and the schema: both are identifiers, the
    pattern of a name or a multi-part name with commas between, and only rules about types have a
    schema.  The schema may be empty. -/
structure IsLiteral (subject : Subject) (pattern : String) (schema? : Option String) : Prop where
  ne_empty : pattern ≠ ""
  pattern_chars : ∀ c ∈ pattern.toList,
    isIdentifierChar c = true ∨ c = ',' ∧ (subject = .name ∨ subject = .multiPartName)
  of_schema : ∀ schema ∈ schema?,
    subject = .objectType ∧ ∀ c ∈ schema.toList, isIdentifierChar c = true

/-- The attribute that the rule looks at: a name with a comma is a multi-part name. -/
def literalSubject (subject : Subject) (pattern : String) : Subject :=
  if subject = .name ∧ ',' ∈ pattern.toList then .multiPartName else subject

/-- The rule that the text says.  An empty schema is left out. -/
def literalRule (operation : Operation) (subject : Subject) (polarity : Polarity)
    (pattern : String) (schema? : Option String) : Rule :=
  { operation
    subject := literalSubject subject pattern
    polarity
    pattern
    options := (schema?.filter (· ≠ "")).toList }

/-! ### The characters of identifiers -/

/-- The code points of digits, capital letters, the underscore and small letters. -/
private theorem toNat_of_isIdentifierChar {c : Char} (hc : isIdentifierChar c = true) :
    (48 ≤ c.toNat ∧ c.toNat ≤ 57) ∨ (65 ≤ c.toNat ∧ c.toNat ≤ 90) ∨ c.toNat = 95 ∨
      (97 ≤ c.toNat ∧ c.toNat ≤ 122) := by
  have hkind : ((c.isUpper = true ∨ c.isLower = true) ∨ c.isDigit = true) ∨ c = '_' := by
    rw [isIdentifierChar, Bool.or_eq_true, beq_iff_eq] at hc
    exact hc.imp_left fun h =>
      (Bool.or_eq_true_iff.mp h).imp_left fun h => Bool.or_eq_true_iff.mp h
  rcases hkind with ((h | h) | h) | rfl
  · exact .inr (.inl (of_decide_eq_true h))
  · obtain ⟨hlow, hhigh⟩ := Bool.and_eq_true_iff.mp h
    exact .inr (.inr (.inr ⟨of_decide_eq_true hlow, of_decide_eq_true hhigh⟩))
  · obtain ⟨hlow, hhigh⟩ := Bool.and_eq_true_iff.mp h
    exact .inl ⟨of_decide_eq_true hlow, of_decide_eq_true hhigh⟩
  · exact .inr (.inr (.inl rfl))

theorem isBlank_of_isIdentifierChar {c : Char} (hc : isIdentifierChar c = true) :
    isBlank c = false := by
  have hcode := toNat_of_isIdentifierChar hc
  rw [← Bool.not_eq_true]
  simp [isBlank]
  omega

theorem isPlain_of_isIdentifierChar {c : Char} (hc : isIdentifierChar c = true) :
    Pattern.isPlain c = true := by
  have hspecial : Pattern.specialChars.all (!isIdentifierChar ·) = true := by decide
  refine decide_eq_true fun hmem => ?_
  have hother := List.all_eq_true.mp hspecial c hmem
  rw [hc] at hother
  exact Bool.false_ne_true hother

theorem comma_notMem_of_isIdentifierChar {text : List Char}
    (htext : ∀ c ∈ text, isIdentifierChar c = true) : ',' ∉ text :=
  fun hmem => absurd (htext ',' hmem) (by decide)

/-- There is nothing to trim of an identifier. -/
theorem trim_of_isIdentifierChar {text : List Char}
    (htext : ∀ c ∈ text, isIdentifierChar c = true) : trim text = text :=
  trim_eq_self_iff.mpr
    ⟨fun c hc => isBlank_of_isIdentifierChar (htext c (List.mem_of_mem_head? hc)),
      fun c hc => isBlank_of_isIdentifierChar (htext c (List.mem_of_mem_getLast? hc))⟩

namespace IsLiteral

/-- What holds of the characters of identifiers and of the comma, holds of the whole pattern. -/
theorem forall_chars (h : IsLiteral subject pattern schema?) {p : Char → Prop}
    (hidentifier : ∀ c, isIdentifierChar c = true → p c) (hcomma : p ',') :
    ∀ c ∈ pattern.toList, p c := by
  intro c hc
  rcases h.pattern_chars c hc with hchar | ⟨rfl, -⟩
  · exact hidentifier c hchar
  · exact hcomma

/-- The pattern stands for itself. -/
theorem isPlain (h : IsLiteral subject pattern schema?) :
    ∀ c ∈ pattern.toList, Pattern.isPlain c = true :=
  h.forall_chars (fun _ => isPlain_of_isIdentifierChar) (by decide)

/-- The pattern is not blank. -/
theorem allBlank (h : IsLiteral subject pattern schema?) : allBlank pattern.toList = false := by
  have hshown : ∀ c ∈ pattern.toList, isBlank c = false :=
    h.forall_chars (fun _ => isBlank_of_isIdentifierChar) (by decide)
  obtain ⟨c, hc⟩ := List.exists_mem_of_ne_nil pattern.toList (by simpa using h.ne_empty)
  exact allBlank_eq_false_iff.mpr ⟨c, hc, hshown c hc⟩

/-- Only rules about types have a schema. -/
theorem schema_eq_none (h : IsLiteral subject pattern schema?) (hsubject : subject ≠ .objectType) :
    schema? = none :=
  Option.eq_none_iff_forall_not_mem.mpr fun schema hschema =>
    hsubject (h.of_schema schema hschema).1

end IsLiteral

/-! ### Reading -/

/-- The text is that of a rule with all that is written, an empty schema too. -/
theorem literalText_eq_text :
    literalText operation subject polarity pattern schema? =
      text { operation, subject, polarity, pattern, options := schema?.toList } := by
  rw [← String.toList_inj, toList_text]
  cases schema? <;> simp [literalText, form, Form.chars, Header.chars, contentChars]

/-- A pattern with a comma is taken as it stands, and there is no schema. -/
private theorem form_of_verbatim (h : IsLiteral subject pattern schema?)
    (hsubject : subject = .multiPartName ∨ subject = .name ∧ ',' ∈ pattern.toList) :
    let written : Rule := { operation, subject, polarity, pattern, options := schema?.toList }
    written.form.IsProper ∧
      written.form.rule = literalRule operation subject polarity pattern schema? := by
  intro written
  obtain rfl : schema? = none := by
    refine h.schema_eq_none ?_
    rcases hsubject with rfl | ⟨rfl, -⟩ <;> decide
  have hcontent : written.form.content = pattern.toList := by
    simp [written, form, contentChars]
  have hverbatim : written.form.IsVerbatim := by
    rw [Form.IsVerbatim, hcontent]
    exact hsubject
  constructor
  · rw [Form.IsProper, Form.primary, if_pos hverbatim, hcontent]
    exact h.allBlank
  · have hselected : literalSubject subject pattern = .multiPartName := by
      rcases hsubject with rfl | hname
      · simp [literalSubject]
      · exact if_pos hname
    rw [Form.rule, if_pos hverbatim, hcontent, literalRule, hselected, String.ofList_toList]
    rfl

/-- A pattern without commas stands before the schema, which is an option unless it is empty. -/
private theorem form_of_pieces (h : IsLiteral subject pattern schema?)
    (hsubject : ¬ (subject = .multiPartName ∨ subject = .name ∧ ',' ∈ pattern.toList)) :
    let written : Rule := { operation, subject, polarity, pattern, options := schema?.toList }
    written.form.IsProper ∧
      written.form.rule = literalRule operation subject polarity pattern schema? := by
  intro written
  have hchars : ∀ c ∈ pattern.toList, isIdentifierChar c = true := by
    intro c hc
    rcases h.pattern_chars c hc with hchar | ⟨rfl, hname | hmulti⟩
    · exact hchar
    · exact absurd (.inr ⟨hname, hc⟩) hsubject
    · exact absurd (.inl hmulti) hsubject
  have hcomma : ',' ∉ pattern.toList := comma_notMem_of_isIdentifierChar hchars
  -- Neither the pattern nor the schema holds a comma, so that the only one stands between them.
  have hschema : ∀ schema ∈ schema?.toList, ∀ c ∈ schema.toList, isIdentifierChar c = true :=
    fun schema hmem => (h.of_schema schema (Option.mem_toList.mp hmem)).2
  have hsplit : written.form.content.splitOn ',' =
      pattern.toList :: schema?.toList.map (' ' :: ·.toList) :=
    splitOn_contentChars hcomma fun schema hmem =>
      comma_notMem_of_isIdentifierChar (hschema schema hmem)
  have hverbatim : ¬ written.form.IsVerbatim := by
    rintro (hmulti | ⟨hname, hmem⟩)
    · exact hsubject (.inl hmulti)
    · have hnone : schema? = none := h.schema_eq_none fun htype => by
        exact absurd (hname.symm.trans htype) (by decide)
      refine hcomma ?_
      simpa [written, form, contentChars, hnone] using hmem
  have hprimary : written.form.primary = pattern.toList :=
    written.form.primary_of_splitOn hverbatim hsplit
  have hoptions : written.form.options = (schema?.filter (· ≠ "")).toList := by
    rw [Form.options, hsplit, List.tail_cons]
    cases schema? with
    | none => rfl
    | some schema =>
      -- The blank behind the comma is taken off, and then nothing may be left.
      have htrim : trim (' ' :: schema.toList) = schema.toList :=
        (trim_cons_of_blank (by decide) _).trans
          (trim_of_isIdentifierChar (hschema schema (by simp)))
      rw [Option.toList_some, List.map_singleton, List.map_singleton, htrim]
      by_cases hempty : schema = "" <;> simp [hempty, Option.filter_some]
  constructor
  · rw [Form.IsProper, hprimary]
    exact h.allBlank
  · have hselected : literalSubject subject pattern = subject := if_neg fun hname => hcomma hname.2
    rw [Form.rule, if_neg hverbatim, hprimary, hoptions, trim_of_isIdentifierChar hchars,
      String.ofList_toList, literalRule, hselected]
    rfl

/-- The text says the rule. -/
theorem parse_literalText (h : IsLiteral subject pattern schema?) :
    parse (literalText operation subject polarity pattern schema?) =
      .ok (literalRule operation subject polarity pattern schema?) := by
  rw [literalText_eq_text, parse_text_eq_ok_iff]
  by_cases hsubject : subject = .multiPartName ∨ subject = .name ∧ ',' ∈ pattern.toList
  · obtain ⟨hproper, hrule⟩ := form_of_verbatim h hsubject
    exact ⟨hproper, hrule.symm⟩
  · obtain ⟨hproper, hrule⟩ := form_of_pieces h hsubject
    exact ⟨hproper, hrule.symm⟩

/-! ### Meaning -/

/-- The schema that the rule is restricted to. -/
theorem qualifier?_literalRule (h : IsLiteral subject pattern schema?) :
    (literalRule operation subject polarity pattern schema?).qualifier? =
      schema?.filter (· ≠ "") := by
  rw [qualifier?_eq, literalRule]
  by_cases htype : subject = .objectType
  · subst htype
    simp [literalSubject]
  · rw [h.schema_eq_none htype]
    simp

/-- The pattern of the rule is good unless it is too large. -/
theorem compile_literalRule (h : IsLiteral subject pattern schema?)
    (hsize : (Pattern.Expr.literal pattern.toList).isTooLarge = false) :
    Pattern.compile (literalRule operation subject polarity pattern schema?).pattern =
      .ok (.literal pattern.toList) := by
  rw [← Bool.not_eq_true, Pattern.Expr.isTooLarge_literal] at hsize
  rw [literalRule, Pattern.compile_of_plain h.ne_empty h.isPlain, if_neg hsize]

/-- **The meaning** of rules that are written plainly.  The text of such a rule makes a set, unless
    the pattern is too large, and the set gives one verdict on each object: the rule applies where
    the pattern is a part of the attribute, and the schema that counts is the one that is written,
    if one is and it is not empty; or with an exclamation mark, where that is not so. -/
theorem verdicts_literalText (h : IsLiteral subject pattern schema?)
    (hsize : (Pattern.Expr.literal pattern.toList).isTooLarge = false) :
    ∃ set, (FilterSet.parse [literalText operation subject polarity pattern schema?]).value =
        .ok set ∧
      ∀ object, ∃ verdict, set.verdicts object = [verdict] ∧
        verdict.index = 0 ∧
        verdict.rule = literalRule operation subject polarity pattern schema? ∧
        (verdict.applies = true ↔
          Xor
            (pattern.toList <:+: (object.get (literalSubject subject pattern)).toList ∧
              ∀ schema ∈ schema?, schema ≠ "" → SameIgnoringCase object.effectiveSchema schema)
            (polarity = .negative)) := by
  obtain ⟨set, hset, hverdicts⟩ :=
    FilterSet.exists_parse_singleton (parse_literalText h) (compile_literalRule h hsize)
  refine ⟨set, hset, fun object => ⟨_, hverdicts object, rfl, rfl, ?_⟩⟩
  rw [Filter.applies_iff_of_literal rfl, qualifier?_literalRule h]
  simp only [Option.mem_def, Option.filter_eq_some_iff, decide_eq_true_eq, and_imp]
  exact Iff.rfl

/-- A negative rule about the tables of a schema. -/
theorem verdicts_literalText_of_tables :
    ∃ set, (FilterSet.parse ["IgnoreType!(Table, dbo)"]).value = .ok set ∧
      ∀ object, ∃ verdict, set.verdicts object = [verdict] ∧
        (verdict.applies = true ↔
          Xor
            ("Table".toList <:+: object.objectType.toList ∧
              SameIgnoringCase object.effectiveSchema "dbo")
            (Polarity.negative = .negative)) := by
  have hpattern : "Table".toList.all isIdentifierChar = true := by decide
  have hdbo : "dbo".toList.all isIdentifierChar = true := by decide
  have hliteral : IsLiteral .objectType "Table" (some "dbo") := by
    refine ⟨by decide, fun c hc => .inl (List.all_eq_true.mp hpattern c hc), ?_⟩
    rintro _ ⟨⟩
    exact ⟨rfl, List.all_eq_true.mp hdbo⟩
  have hsize : (Pattern.Expr.literal "Table".toList).isTooLarge = false := by decide
  obtain ⟨set, hset, hverdicts⟩ :=
    @verdicts_literalText .ignore _ .negative _ _ hliteral hsize
  refine ⟨set, hset, fun object => ?_⟩
  obtain ⟨verdict, hverdict, -, -, happlies⟩ := hverdicts object
  have hschema : (∀ schema ∈ some "dbo",
      schema ≠ "" → SameIgnoringCase object.effectiveSchema schema) ↔
        SameIgnoringCase object.effectiveSchema "dbo" := by
    simp
  rw [hschema] at happlies
  exact ⟨verdict, hverdict, happlies⟩

/-- An empty schema is not one: the rule applies to tables of every schema. -/
theorem verdicts_literalText_of_empty_schema :
    let object : SchemaObject := .ofName "Table" "dbo" "Orders"
    ∃ set, (FilterSet.parse ["IgnoreType(Table, )"]).value = .ok set ∧
      ∃ verdict, set.verdicts object = [verdict] ∧
        ¬ (verdict.applies = true ↔
          Xor
            ("Table".toList <:+: object.objectType.toList ∧
              SameIgnoringCase object.effectiveSchema "")
            (Polarity.positive = .negative)) := by
  intro object
  have hpattern : "Table".toList.all isIdentifierChar = true := by decide
  have hliteral : IsLiteral .objectType "Table" (some "") := by
    refine ⟨by decide, fun c hc => .inl (List.all_eq_true.mp hpattern c hc), ?_⟩
    rintro _ ⟨⟩
    exact ⟨rfl, nofun⟩
  let rule : Rule := literalRule .ignore .objectType .positive "Table" (some "")
  have hcompile : Pattern.compile rule.pattern = .ok (.literal "Table".toList) :=
    compile_literalRule hliteral (by decide)
  have hqualifier : rule.qualifier? = none := qualifier?_literalRule hliteral
  have hfound : "Table".toList <:+: object.objectType.toList := List.infix_refl _
  have hpositive : Polarity.positive ≠ .negative := by decide
  have happlies : (Filter.mk rule _ hcompile).applies object = true :=
    (Filter.applies_iff_of_literal rfl).mpr (.inl ⟨⟨hfound, by simp [hqualifier]⟩, hpositive⟩)
  obtain ⟨set, hset, hverdicts⟩ :=
    FilterSet.exists_parse_singleton (parse_literalText hliteral) hcompile
  refine ⟨set, hset, _, hverdicts object, fun h => ?_⟩
  rcases h.mp happlies with ⟨⟨-, hschema⟩, -⟩ | ⟨hnegative, -⟩
  · exact absurd (eqIgnoringAsciiCase_iff.mpr hschema) (by decide)
  · exact hpositive hnegative

end Rule

end SchemaFilter
