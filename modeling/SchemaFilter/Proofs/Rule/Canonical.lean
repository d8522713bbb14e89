import Mathlib.Data.Set.Function
import Mathlib.Tactic.TFAE
import SchemaFilter.Proofs.Rule.Form

/-!
# Canonical rules

Every rule has a text, but not every text of a rule is read as that rule again: a constructor takes
any pattern and any options.  The rules that survive are the canonical ones, and no others are ever
read.

* `IsCanonical` — the canonical rules;
* `form`, `toList_text` — the text of a rule is a form;
* `isCanonical_iff`, `rule_form_eq_self_iff` — the content of a rule decides whether the rule
  survives;
* `canonical_tfae` — **the round trip**: a rule is canonical, is read from its own text, is read
  from some text: all the same;
* `Form.LacksPattern`, `SettlesAs`, `parse_text_settles` — **settling**: the text of any rule is
  malformed, or read as a rule that stays the same from there on.
-/

namespace SchemaFilter.Rule

/-! ### Which rules are canonical -/

/-- The text can stand between commas: something that no blank surrounds, without commas. -/
def IsPiece (text : String) : Prop :=
  text ≠ "" ∧ trimmed text = text ∧ ',' ∉ text.toList

/-- The pattern and the options can stand in the content of the subject.  A multi-part name takes
    the whole content for its pattern, and a name has no options because a comma would make it a
    multi-part name. -/
def IsCanonical (rule : Rule) : Prop :=
  match rule.subject with
  | .schema | .objectType => IsPiece rule.pattern ∧ ∀ option ∈ rule.options, IsPiece option
  | .name => IsPiece rule.pattern ∧ rule.options = []
  | .multiPartName => allBlank rule.pattern.toList = false ∧ rule.options = []

/-! ### The text of a rule -/

/-- The form that the text of a rule has. -/
def form (rule : Rule) : Form :=
  { header := ⟨rule.operation, rule.subject, rule.polarity⟩
    content := rule.contentChars }

theorem toList_text (rule : Rule) : rule.text.toList = rule.form.chars := by
  rw [text, String.toList_ofList]
  simp [chars, form, Form.chars, Header.chars]

/-- The text of a rule has no blanks around it. -/
theorem trimmed_text (rule : Rule) : trimmed rule.text = rule.text := by
  rw [trimmed_eq_self_iff, toList_text, Form.trim_chars]

/-- Reading the text of a rule is reading its form. -/
theorem parse_text_eq_ok_iff {rule rule' : Rule} :
    parse rule.text = .ok rule' ↔ rule.form.IsProper ∧ rule' = rule.form.rule := by
  rw [parse_eq_ok_iff, toList_text, Form.trim_chars, parseChars_eq_ok_iff]
  constructor
  · rintro ⟨form, hchars, h⟩
    rwa [Form.chars_injective hchars]
  · exact fun h => ⟨rule.form, rfl, h⟩

/-- The content of the text, cut at commas, where they stand nowhere but between the pattern and
    the options. -/
theorem splitOn_contentChars {rule : Rule} (hpattern : ',' ∉ rule.pattern.toList)
    (hoptions : ∀ option ∈ rule.options, ',' ∉ option.toList) :
    rule.contentChars.splitOn ',' =
      rule.pattern.toList :: rule.options.map (' ' :: ·.toList) := by
  rw [contentChars_eq]
  exact Content.splitOn_chars hpattern hoptions

/-! ### Canonical rules are those with a settled content -/

/-- A rule is canonical exactly if its content is settled and its pattern is not blank. -/
theorem isCanonical_iff {rule : Rule} :
    rule.IsCanonical ↔ rule.content.IsSettled ∧ allBlank rule.pattern.toList = false := by
  -- A pattern without blanks around it is blank only if it is empty.
  have hpiece : IsPiece rule.pattern ↔
      Content.IsSegment rule.pattern ∧ allBlank rule.pattern.toList = false := by
    rw [← Bool.not_eq_true, ← trim_eq_nil_iff]
    constructor
    · rintro ⟨hne, hsegment⟩
      refine ⟨hsegment, ?_⟩
      rw [trimmed_eq_self_iff.mp hsegment.1]
      simpa using hne
    · rintro ⟨hsegment, hshown⟩
      rw [trimmed_eq_self_iff.mp hsegment.1] at hshown
      exact ⟨by simpa using hshown, hsegment⟩
  obtain ⟨operation, subject, polarity, pattern, options⟩ := rule
  cases subject with
  | schema => exact (and_congr_left fun _ => hpiece).trans and_right_comm
  | objectType => exact (and_congr_left fun _ => hpiece).trans and_right_comm
  | name => exact (and_congr_left fun _ => hpiece).trans and_right_comm
  | multiPartName => exact and_comm

/-- The text of a rule says the rule itself exactly if the content of the rule is settled. -/
theorem rule_form_eq_self_iff {rule : Rule} :
    rule.form.rule = rule ↔ rule.content.IsSettled := by
  have hread : Content.read rule.content.subject rule.content.chars = rule.form.rule.content := by
    rw [← contentChars_eq]
    exact read_content rule.form
  rw [← Content.read_chars_eq_self_iff, hread]
  constructor
  · exact congrArg content
  · -- The operation and the polarity are those of the header, whatever the content.
    intro h
    obtain ⟨hsubject, hpattern, hoptions⟩ := Content.mk.inj h
    exact (Rule.mk.injEq _ _ _ _ _ _ _ _ _ _).mpr
      ⟨rule.form.operation_rule, hsubject, rule.form.polarity_rule, hpattern, hoptions⟩

/-- A canonical rule is what its text says. -/
theorem rule_form_of_canonical {rule : Rule} (h : rule.IsCanonical) :
    rule.form.IsProper ∧ rule.form.rule = rule := by
  obtain ⟨hsettled, hshown⟩ := isCanonical_iff.mp h
  have hrule : rule.form.rule = rule := rule_form_eq_self_iff.mpr hsettled
  refine ⟨?_, hrule⟩
  rw [Form.IsProper, ← allBlank_pattern, hrule]
  exact hshown

/-- What a proper form says is canonical. -/
theorem isCanonical_rule {form : Form} (h : form.IsProper) : form.rule.IsCanonical := by
  rw [isCanonical_iff, allBlank_pattern]
  refine ⟨?_, h⟩
  have hsettled := Content.isSettled_read form.header.declared form.content
  rwa [read_content] at hsettled

/-- A rule that is read from some text is read from its own text. -/
theorem parse_text_of_parse {raw : String} {rule : Rule} (h : parse raw = .ok rule) :
    parse rule.text = .ok rule := by
  obtain ⟨form, -, hproper, rfl⟩ := parseChars_eq_ok_iff.mp (parse_eq_ok_iff.mp h)
  obtain ⟨hform, hrule⟩ := rule_form_of_canonical (isCanonical_rule hproper)
  exact parse_text_eq_ok_iff.mpr ⟨hform, hrule.symm⟩

/-! ### The round trip -/

/-- **The round trip.**  A rule is canonical exactly if its text is read as the rule again, and
    exactly if some text is.  So no two rules that are ever read have the same text. -/
theorem canonical_tfae :
    (∀ rule : Rule,
      [rule.IsCanonical, parse rule.text = .ok rule, ∃ raw, parse raw = .ok rule].TFAE) ∧
    Set.InjOn text {rule | ∃ raw, parse raw = .ok rule} := by
  have htfae (rule : Rule) :
      [rule.IsCanonical, parse rule.text = .ok rule, ∃ raw, parse raw = .ok rule].TFAE := by
    tfae_have 1 → 2 := by
      intro h
      obtain ⟨hproper, hrule⟩ := rule_form_of_canonical h
      exact parse_text_eq_ok_iff.mpr ⟨hproper, hrule.symm⟩
    tfae_have 2 → 3 := fun h => ⟨rule.text, h⟩
    tfae_have 3 → 1 := by
      rintro ⟨raw, h⟩
      obtain ⟨form, -, hproper, rfl⟩ := parseChars_eq_ok_iff.mp (parse_eq_ok_iff.mp h)
      exact isCanonical_rule hproper
    tfae_finish
  refine ⟨htfae, ?_⟩
  intro rule hrule rule' hrule' heq
  have hread := ((htfae rule).out 2 1).mp hrule
  have hread' := ((htfae rule').out 2 1).mp hrule'
  rw [heq] at hread
  exact Except.ok.inj (hread.symm.trans hread')

/-! ### Rules that are not canonical -/

/-- There is nothing in the content that could be a pattern: it is blank, or else it is cut at
    commas, and blank up to the first of them. -/
def Form.LacksPattern (form : Form) : Prop :=
  allBlank form.content = true ∨
    (¬ form.IsVerbatim ∧ allBlank (form.content.takeWhile (· ≠ ',')) = true)

instance (form : Form) : Decidable form.LacksPattern :=
  inferInstanceAs (Decidable (_ ∨ _))

theorem Form.lacksPattern_iff {form : Form} : form.LacksPattern ↔ ¬ form.IsProper := by
  have hproper : ¬ form.IsProper ↔ allBlank form.primary = true := by
    rw [IsProper, Bool.not_eq_false]
  rw [hproper, LacksPattern]
  by_cases h : form.IsVerbatim
  · simp [primary, h]
  · -- If the whole content is blank, so is what stands before its first comma.
    have hfront (hblank : allBlank form.content = true) :
        allBlank (form.content.takeWhile (· ≠ ',')) = true := by
      rw [allBlank_eq_true_iff] at hblank ⊢
      exact fun c hc => hblank c (List.takeWhile_subset _ hc)
    rw [primary, if_neg h]
    constructor
    · rintro (hblank | ⟨-, hblank⟩)
      · exact hfront hblank
      · exact hblank
    · exact fun hblank => .inr ⟨h, hblank⟩

/-- A rule that is read from the text of another has its operation, its polarity and its subject,
    but for a name with a comma in the content, which is a multi-part name; and its own text is
    read as the rule itself. -/
structure SettlesAs (rule rule' : Rule) : Prop where
  operation_eq : rule'.operation = rule.operation
  polarity_eq : rule'.polarity = rule.polarity
  subject_eq : rule'.subject =
    if rule.subject = .name ∧ ',' ∈ rule.contentChars then .multiPartName else rule.subject
  settled : parse rule'.text = .ok rule'

/-- The rule that the text of a rule says has the same subject, unless the content is verbatim. -/
theorem subject_rule_form (rule : Rule) :
    rule.form.rule.subject =
      if rule.subject = .name ∧ ',' ∈ rule.contentChars then .multiPartName else rule.subject := by
  have hverbatim : rule.form.IsVerbatim ↔ rule.subject = .multiPartName ∨
      (rule.subject = .name ∧ ',' ∈ rule.contentChars) := Iff.rfl
  by_cases hname : rule.subject = .name ∧ ',' ∈ rule.contentChars
  · rw [if_pos hname, Form.rule, if_pos (hverbatim.mpr (.inr hname))]
  · rw [if_neg hname, Form.rule]
    split
    · rename_i h
      exact ((hverbatim.mp h).resolve_right hname).symm
    · rfl

/-- **Settling.**  The text of any rule whatever is a content in parentheses behind a header.  If
    the content lacks a pattern, the text is malformed; and if not, it is read as a rule that is
    read from its own text again. -/
theorem parse_text_settles (rule : Rule) :
    rule.text.toList = rule.form.header.chars ++ '(' :: (rule.contentChars ++ [')']) ∧
    '(' ∉ rule.form.header.chars ∧
    (rule.form.LacksPattern → ∃ e, parse rule.text = .error e ∧ e.kind = .malformed) ∧
    (¬ rule.form.LacksPattern → ∃ rule', parse rule.text = .ok rule' ∧ rule.SettlesAs rule') := by
  refine ⟨toList_text rule, rule.form.header.paren_notMem_chars, ?_, ?_⟩
  · intro hlacks
    obtain ⟨fragment, herror⟩ := parseChars_of_not_proper (Form.lacksPattern_iff.mp hlacks)
    refine ⟨⟨.malformed, .ofList (trim rule.text.toList), .ofList fragment⟩, ?_, rfl⟩
    rw [parse, mapError_eq_error_iff, toList_text, Form.trim_chars]
    exact ⟨_, herror, rfl⟩
  · intro hlacks
    have hproper : rule.form.IsProper := not_not.mp (mt Form.lacksPattern_iff.mpr hlacks)
    have hparse : parse rule.text = .ok rule.form.rule := parse_text_eq_ok_iff.mpr ⟨hproper, rfl⟩
    refine ⟨rule.form.rule, hparse, ?_⟩
    exact
      { operation_eq := rule.form.operation_rule
        polarity_eq := rule.form.polarity_rule
        subject_eq := subject_rule_form rule
        settled := parse_text_of_parse hparse }

/-- A name with an option is read as a multi-part name, in which the comma stands. -/
example : parse ((keep .name "a").withOption "b").text = .ok (keep .multiPartName "a, b") := by
  decide

end SchemaFilter.Rule
