import Mathlib.Logic.Basic
import SchemaFilter.Proofs.Filter.Compile
import SchemaFilter.Proofs.Rule.Form

/-!
# The mark of negative rules

A rule is made negative by an exclamation mark in front of the parenthesis that opens its content.
The rule stays the same otherwise, and applies to exactly the objects that it did not apply to.

* `markNegative` — the text with the mark; `markNegative_injective`, that the text without it is
  found again;
* `Spells` — a text is a form with blanks around it;
* `Form.withPolarity` — a form with another mark, which says the rule with another polarity;
* `Spells.markNegative` — where the mark is put;
* `Negates`, `negates_withPolarity` — rules of which exactly one applies;
* `parse_markNegative` — **negation** of texts is negation of rules.
-/

namespace SchemaFilter.Rule

/-! ### The mark -/

/-- The text with the mark of negative rules in front of its first parenthesis. -/
def markNegative (raw : String) : String :=
  .ofList (raw.toList.takeWhile (· ≠ '(') ++
    (Polarity.negative.mark ++ raw.toList.dropWhile (· ≠ '(')))

/-- The mark is put in front of the first parenthesis. -/
theorem toList_markNegative {raw : String} {front back : List Char}
    (hraw : raw.toList = front ++ '(' :: back) (hfront : '(' ∉ front) :
    (markNegative raw).toList = front ++ (Polarity.negative.mark ++ '(' :: back) := by
  have hall : ∀ c ∈ front, (fun c => decide (c ≠ '(')) c = true := by
    intro c hc
    exact decide_eq_true fun heq => hfront (heq ▸ hc)
  rw [markNegative, String.toList_ofList, hraw, List.takeWhile_append_of_pos hall,
    List.dropWhile_append_of_pos hall, List.takeWhile_cons_of_neg (by simp),
    List.dropWhile_cons_of_neg (by simp), List.append_nil]

/-- The text without the mark is found again. -/
theorem markNegative_injective : Function.Injective markNegative := by
  -- What stands before the first parenthesis is found again, and the mark is its last character.
  have hfront (raw : String) : (markNegative raw).toList.takeWhile (· ≠ '(') =
      raw.toList.takeWhile (· ≠ '(') ++ Polarity.negative.mark := by
    have hall : ∀ c ∈ raw.toList.takeWhile (· ≠ '(') ++ Polarity.negative.mark,
        decide (c ≠ '(') = true := by
      intro c hc
      rcases List.mem_append.mp hc with h | h
      · have hc := List.mem_takeWhile_imp h
        exact hc
      · obtain rfl : c = '!' := List.mem_singleton.mp h
        decide
    rw [markNegative, String.toList_ofList, ← List.append_assoc, List.takeWhile_append_of_pos hall]
    have hrest : (raw.toList.dropWhile (· ≠ '(')).takeWhile (· ≠ '(') = [] := by
      cases h : raw.toList.dropWhile (· ≠ '(') with
      | nil => rfl
      | cons c cs =>
        have hc := List.head?_dropWhile_not (fun c => decide (c ≠ '(')) raw.toList
        rw [h] at hc
        exact List.takeWhile_cons_of_neg (by simpa using hc)
    rw [hrest, List.append_nil]
  intro raw raw' heq
  have htake := hfront raw
  rw [heq, hfront raw', List.append_left_inj] at htake
  have hall := congrArg String.toList heq
  rw [markNegative, markNegative, String.toList_ofList, String.toList_ofList, htake,
    List.append_right_inj, List.append_right_inj] at hall
  have hsplit (chars : List Char) :=
    List.takeWhile_append_dropWhile (l := chars) (p := fun c => decide (c ≠ '('))
  rw [← String.toList_inj, ← hsplit raw.toList, ← htake, hall, hsplit]

/-! ### Forms with a mark -/

/-- The text is the form, which has a pattern, with blanks around it. -/
structure Spells (raw : String) (left : List Char) (form : Form) (right : List Char) : Prop where
  text : raw.toList = left ++ form.chars ++ right
  left_blank : allBlank left = true
  right_blank : allBlank right = true
  proper : form.IsProper

/-- A text is read as what it spells. -/
theorem parse_eq_ok_iff_spells {raw : String} {rule : Rule} :
    parse raw = .ok rule ↔ ∃ left form right, Spells raw left form right ∧ rule = form.rule := by
  rw [parse_eq_ok_iff, parseChars_eq_ok_iff]
  constructor
  · rintro ⟨form, htext, hproper, hrule⟩
    obtain ⟨left, right, hraw, hleft, hright⟩ := exists_eq_append_trim raw.toList
    exact ⟨left, form, right, ⟨htext ▸ hraw, hleft, hright, hproper⟩, hrule⟩
  · rintro ⟨left, form, right, h, hrule⟩
    refine ⟨form, ?_, h.proper, hrule⟩
    rw [h.text, trim_append_of_blank h.left_blank h.right_blank, Form.trim_chars]

namespace Form

/-- The form with the mark of another polarity. -/
def withPolarity (form : Form) (polarity : Polarity) : Form :=
  { form with header := { form.header with polarity } }

/-- The mark makes no difference to what the content says. -/
@[simp] theorem rule_withPolarity (form : Form) (polarity : Polarity) :
    (form.withPolarity polarity).rule = form.rule.withPolarity polarity := by
  have hverbatim : (form.withPolarity polarity).IsVerbatim ↔ form.IsVerbatim := Iff.rfl
  unfold rule
  by_cases h : form.IsVerbatim
  · rw [if_pos (hverbatim.mpr h), if_pos h]
    rfl
  · rw [if_neg (mt hverbatim.mp h), if_neg h]
    rfl

/-- The mark of a form stands at the end of its header. -/
theorem chars_withPolarity (form : Form) (polarity : Polarity) :
    (form.withPolarity polarity).chars =
      form.header.operation.keyword.toList ++ form.header.declared.keyword.toList ++
        polarity.mark ++ '(' :: (form.content ++ [')']) := by
  simp [chars, withPolarity, Header.chars]

end Form

/-- The mark is put between the header of a rule and the parenthesis that opens its content. -/
theorem Spells.toList_markNegative {raw : String} {left right : List Char} {form : Form}
    (h : Spells raw left form right) :
    (markNegative raw).toList =
      left ++ form.header.chars ++ '!' :: '(' :: (form.content ++ ')' :: right) := by
  have hraw : raw.toList = left ++ form.header.chars ++ '(' :: (form.content ++ ')' :: right) := by
    rw [h.text, Form.chars]
    simp
  refine Rule.toList_markNegative hraw ?_
  rw [List.mem_append, not_or]
  refine ⟨fun hmem => ?_, form.header.paren_notMem_chars⟩
  exact absurd (allBlank_eq_true_iff.mp h.left_blank _ hmem) (by decide)

/-- With the mark, a text spells the form with the mark. -/
theorem Spells.markNegative {raw : String} {left right : List Char} {form : Form}
    (h : Spells raw left form right) (hpolarity : form.header.polarity = .positive) :
    Spells (markNegative raw) left (form.withPolarity .negative) right := by
  refine ⟨?_, h.left_blank, h.right_blank, h.proper⟩
  rw [h.toList_markNegative, Form.chars_withPolarity, Header.chars, hpolarity]
  simp [Polarity.mark]

/-! ### Verdicts -/

/-- Both rules have the same bad pattern, or else exactly one of them applies to each object. -/
structure Negates (rule' rule : Rule) : Prop where
  compiles_iff : rule'.Compiles ↔ rule.Compiles
  error_iff : ∀ e, Filter.ofRule rule' = .error e ↔ Filter.ofRule rule = .error e
  exactly_one : ∀ filter filter', Filter.ofRule rule = .ok filter →
    Filter.ofRule rule' = .ok filter' →
    ∀ object, Xor (filter.applies object = true) (filter'.applies object = true)

/-- What a negative rule negates is all that it looks for, the schema together with the pattern. -/
theorem negates_withPolarity {rule : Rule} (h : rule.polarity = .positive) :
    (rule.withPolarity .negative).Negates rule where
  compiles_iff := Iff.rfl
  error_iff e := by
    rw [Filter.ofRule_eq_error_iff, Filter.ofRule_eq_error_iff]
    exact Iff.rfl
  exactly_one filter filter' hfilter hfilter' object := by
    rw [Filter.ofRule_eq_ok_iff] at hfilter hfilter'
    have hexpr : filter'.expr = filter.expr := by
      have hpattern : filter'.rule.pattern = filter.rule.pattern := by
        rw [hfilter, hfilter']
        rfl
      have hcompile := filter'.compile_eq
      rw [hpattern, filter.compile_eq] at hcompile
      exact (Except.ok.inj hcompile).symm
    have hfinds : filter'.finds object = filter.finds object := by
      rw [Filter.finds, Filter.finds, Filter.inScope, Filter.inScope, hexpr, hfilter, hfilter']
      rfl
    have hpositive : filter.rule.polarity ≠ .negative := by
      rw [hfilter, h]
      decide
    have hnegative : filter'.rule.polarity = .negative := by
      rw [hfilter']
      rfl
    rw [Filter.applies_iff, Filter.applies_iff, hfinds]
    by_cases hfound : filter.finds object = true
    · exact .inl ⟨.inl ⟨hfound, hpositive⟩, by simp [hfound, hnegative, Xor]⟩
    · exact .inr ⟨.inr ⟨hnegative, hfound⟩, by simp [hfound, hpositive, Xor]⟩

/-! ### Negation -/

/-- **Negation.**  With the mark in front of the parenthesis that opens its content, the text of a
    positive rule is that of the negative one, which differs in nothing else, and applies to
    exactly the objects that the positive one does not apply to.  Every text of a negative rule
    comes from one text of the positive rule that way. -/
theorem parse_markNegative :
    (∀ raw rule, parse raw = .ok rule → rule.polarity = .positive →
      (∃ left form right, Spells raw left form right ∧ (markNegative raw).toList =
        left ++ form.header.chars ++ '!' :: '(' :: (form.content ++ ')' :: right)) ∧
      parse (markNegative raw) = .ok { rule with polarity := .negative } ∧
      Negates { rule with polarity := .negative } rule) ∧
    (∀ raw rule, parse raw = .ok rule → rule.polarity = .negative →
      ∃! plain, markNegative plain = raw ∧
        parse plain = .ok { rule with polarity := .positive }) := by
  constructor
  · intro raw rule hparse hpolarity
    obtain ⟨left, form, right, h, rfl⟩ := parse_eq_ok_iff_spells.mp hparse
    have hmark : Spells (markNegative raw) left (form.withPolarity .negative) right :=
      h.markNegative (form.polarity_rule ▸ hpolarity)
    refine ⟨⟨left, form, right, h, h.toList_markNegative⟩, ?_, negates_withPolarity hpolarity⟩
    exact parse_eq_ok_iff_spells.mpr ⟨left, _, right, hmark, (form.rule_withPolarity _).symm⟩
  · intro raw rule hparse hpolarity
    obtain ⟨left, form, right, h, rfl⟩ := parse_eq_ok_iff_spells.mp hparse
    -- The text without the mark is spelled by the same form, with the other polarity.
    let plain : String := .ofList (left ++ (form.withPolarity .positive).chars ++ right)
    have hplain : Spells plain left (form.withPolarity .positive) right :=
      ⟨String.toList_ofList, h.left_blank, h.right_blank, h.proper⟩
    have hmark : markNegative plain = raw := by
      have hform : (form.withPolarity .positive).withPolarity .negative = form := by
        rw [form.polarity_rule] at hpolarity
        rw [Form.withPolarity, Form.withPolarity, ← hpolarity]
      rw [← String.toList_inj, (hplain.markNegative rfl).text, hform, h.text]
    refine ⟨plain, ⟨hmark, ?_⟩, ?_⟩
    · exact parse_eq_ok_iff_spells.mpr ⟨left, _, right, hplain, (form.rule_withPolarity _).symm⟩
    · rintro other ⟨hother, -⟩
      exact markNegative_injective (hother.trans hmark.symm)

/-- The content may hold parentheses and marks of its own. -/
example : markNegative " KeepName(!a(b)) " = " KeepName!(!a(b)) " := by decide

end SchemaFilter.Rule
