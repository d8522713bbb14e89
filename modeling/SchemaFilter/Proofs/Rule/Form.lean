import SchemaFilter.Proofs.Result
import SchemaFilter.Proofs.Rule.Content
import SchemaFilter.Proofs.Rule.Header

/-!
# The grammar of rules

A rule is written as a header and a content in parentheses.  The content is either the pattern as
it stands, or a pattern and options with commas between them.

* `Form` — a header with a content; `Form.chars`, how it is written; `Form.rule`, what it says;
* `Form.chars_injective` — no two forms are written alike;
* `parseChars_header_append` — what is read behind a header;
* `parse_iff_form` — **the grammar**: exactly the proper forms are read, each as what it says.
-/

namespace SchemaFilter.Rule

/-! ### Forms -/

/-- A header, and a content that stands in parentheses behind it. -/
structure Form where
  header : Header
  content : List Char
  deriving DecidableEq, Repr

namespace Form

/-- A form as it is written. -/
def chars (form : Form) : List Char :=
  form.header.chars ++ '(' :: (form.content ++ [')'])

/-- The content is the pattern as it stands: that of a multi-part name, and that of a name where
    it holds a comma. -/
def IsVerbatim (form : Form) : Prop :=
  form.header.declared = .multiPartName ∨
    (form.header.declared = .name ∧ ',' ∈ form.content)

instance (form : Form) : Decidable form.IsVerbatim :=
  inferInstanceAs (Decidable (_ ∨ _))

/-- The part of the content that the pattern is taken from: all of it, or what stands before the
    first comma. -/
def primary (form : Form) : List Char :=
  if form.IsVerbatim then form.content else form.content.takeWhile (· ≠ ',')

/-- The form has a pattern. -/
def IsProper (form : Form) : Prop :=
  allBlank form.primary = false

/-- The options in a content that is not verbatim: what stands between commas behind the first,
    without the blanks around it, unless nothing is left. -/
def options (form : Form) : List String :=
  (((form.content.splitOn ',').tail.map trim).filter (· ≠ [])).map String.ofList

/-- The rule that a form says. -/
def rule (form : Form) : Rule :=
  if form.IsVerbatim then
    { operation := form.header.operation
      subject := .multiPartName
      polarity := form.header.polarity
      pattern := .ofList form.content }
  else
    { operation := form.header.operation
      subject := form.header.declared
      polarity := form.header.polarity
      pattern := .ofList (trim form.primary)
      options := form.options }

/-- Unless the content is verbatim, the pattern is taken from the first piece between commas. -/
theorem primary_of_splitOn (form : Form) {first : List Char} {others : List (List Char)}
    (hverbatim : ¬ form.IsVerbatim) (hsplit : form.content.splitOn ',' = first :: others) :
    form.primary = first := by
  rw [primary, if_neg hverbatim, ← headD_splitOn, hsplit, List.headD_cons]

theorem operation_rule (form : Form) : form.rule.operation = form.header.operation := by
  unfold rule
  split <;> rfl

theorem polarity_rule (form : Form) : form.rule.polarity = form.header.polarity := by
  unfold rule
  split <;> rfl

/-- No two forms are written alike. -/
theorem chars_injective : Function.Injective chars := by
  rintro ⟨h₁, content₁⟩ ⟨h₂, content₂⟩ heq
  obtain ⟨rfl, hrest⟩ :=
    Header.chars_append_inj (h₁.endsBefore_paren _) (h₂.endsBefore_paren _) heq
  rw [List.cons.injEq, List.append_left_inj] at hrest
  obtain rfl : content₁ = content₂ := hrest.2
  rfl

/-- A form is written without blanks around it. -/
theorem trim_chars (form : Form) : trim form.chars = form.chars := by
  rw [trim_eq_self_iff]
  constructor
  · intro c hc
    -- Which character comes first depends on the operation only.
    obtain ⟨⟨operation, declared, polarity⟩, content⟩ := form
    cases operation with
    | ignore =>
      obtain rfl : 'I' = c := by
        simpa [chars, Header.chars, Operation.keyword] using hc
      decide
    | keep =>
      obtain rfl : 'K' = c := by
        simpa [chars, Header.chars, Operation.keyword] using hc
      decide
  · intro c hc
    obtain rfl : ')' = c := by
      simpa [chars, List.getLast?_append, List.getLast?_cons] using hc
    decide

/-- A form with a pattern has a content. -/
theorem IsProper.content_shown {form : Form} (h : form.IsProper) :
    allBlank form.content = false := by
  obtain ⟨c, hc, hshown⟩ := allBlank_eq_false_iff.mp h
  refine allBlank_eq_false_iff.mpr ⟨c, ?_, hshown⟩
  unfold primary at hc
  split at hc
  · exact hc
  · exact List.takeWhile_subset _ hc

end Form

/-! ### Reading the content -/

theorem isVerbatim_eq_true_iff {form : Form} :
    Content.isVerbatim form.header.declared form.content = true ↔ form.IsVerbatim := by
  unfold Content.isVerbatim Form.IsVerbatim
  cases form.header.declared <;> simp [Content.separator]

/-- The content of a form is read as the rule that the form says. -/
theorem read_content (form : Form) :
    Content.read form.header.declared form.content =
      { subject := form.rule.subject
        pattern := form.rule.pattern
        options := form.rule.options } := by
  by_cases h : form.IsVerbatim
  · rw [Content.read, if_pos (isVerbatim_eq_true_iff.mpr h), Form.rule, if_pos h]
  · obtain ⟨first, others, hsplit⟩ :=
      List.exists_cons_of_ne_nil (List.splitOn_ne_nil ',' form.content)
    rw [Content.read_of_splitOn (mt isVerbatim_eq_true_iff.mp h) hsplit, Form.rule, if_neg h,
      form.primary_of_splitOn h hsplit, Form.options, hsplit, List.tail_cons]

/-- The pattern of the rule that a form says is blank exactly if the form has none. -/
theorem allBlank_pattern (form : Form) :
    allBlank form.rule.pattern.toList = allBlank form.primary := by
  by_cases h : form.IsVerbatim
  · simp [Form.rule, Form.primary, h]
  · simp [Form.rule, h]

/-! ### Reading what stands behind a header -/

/-- A content is taken exactly if it stands in parentheses and is not blank. -/
theorem takeContent?_eq_some_iff {text content : List Char} :
    takeContent? text = some content ↔
      text = '(' :: (content ++ [')']) ∧ allBlank content = false := by
  rw [takeContent?, Option.filter_eq_some_iff, betweenParens?_eq_some_iff, Bool.not_eq_true']

theorem takeContent?_eq_none_iff {text : List Char} :
    takeContent? text = none ↔
      ∀ content, text = '(' :: (content ++ [')']) → allBlank content = true := by
  rw [Option.eq_none_iff_forall_ne_some]
  constructor
  · intro h content htext
    rw [← Bool.not_eq_false]
    exact fun hshown => h content (takeContent?_eq_some_iff.mpr ⟨htext, hshown⟩)
  · intro h content htaken
    obtain ⟨htext, hshown⟩ := takeContent?_eq_some_iff.mp htaken
    exact absurd (h content htext) (by simp [hshown])

/-- Behind a header, a content is read, which must hold a pattern. -/
theorem parseChars_header_append {header : Header} {rest : List Char}
    (hend : header.EndsBefore rest) :
    parseChars (header.chars ++ rest) =
      match takeContent? rest with
      | none => .error (.malformed, rest)
      | some content =>
        if allBlank (Form.mk header content).primary then .error (.malformed, content)
        else .ok (Form.mk header content).rule := by
  unfold parseChars
  rw [Header.chars, List.append_assoc, takeOperation?_append]
  simp only [List.append_assoc, takeSubject?_append header.declared hend.1,
    takePolarity_eq_iff.mpr ⟨rfl, hend.2⟩]
  cases takeContent? rest with
  | none => rfl
  | some content =>
    simp only [read_content ⟨header, content⟩, allBlank_pattern]
    split
    · rfl
    · -- The operation and the polarity are those of the header, verbatim or not.
      by_cases h : (Form.mk header content).IsVerbatim <;> simp [Form.rule, h]

/-- A form whose content is not blank is read as what it says if it has a pattern. -/
theorem parseChars_form {form : Form} (hcontent : allBlank form.content = false) :
    parseChars form.chars =
      if allBlank form.primary then .error (.malformed, form.content) else .ok form.rule := by
  rw [Form.chars, parseChars_header_append (form.header.endsBefore_paren _),
    takeContent?_eq_some_iff.mpr ⟨rfl, hcontent⟩]

theorem parseChars_of_proper {form : Form} (h : form.IsProper) :
    parseChars form.chars = .ok form.rule := by
  rw [parseChars_form h.content_shown, if_neg (by simp [show allBlank form.primary = false from h])]

/-- A form without a pattern is malformed, be it that its content is blank or only what the pattern
    is taken from. -/
theorem parseChars_of_not_proper {form : Form} (h : ¬ form.IsProper) :
    ∃ fragment, parseChars form.chars = .error (.malformed, fragment) := by
  by_cases hcontent : allBlank form.content = true
  · have hnone : takeContent? ('(' :: (form.content ++ [')'])) = none := by
      rw [takeContent?_eq_none_iff]
      intro content heq
      rw [List.cons.injEq, List.append_left_inj] at heq
      rw [← heq.2, hcontent]
    rw [Form.chars, parseChars_header_append (form.header.endsBefore_paren _), hnone]
    exact ⟨_, rfl⟩
  · have hblank : allBlank form.primary = true := by rwa [← Bool.not_eq_false]
    rw [parseChars_form (Bool.not_eq_true _ ▸ hcontent), if_pos hblank]
    exact ⟨_, rfl⟩

/-! ### Texts by how far their header goes -/

/-- What a text without an operation is refused for. -/
theorem parseChars_of_not_beginsWithOperation {text : List Char}
    (h : ¬ BeginsWithOperation text) :
    parseChars text = .error (.unknownOperation, leadingWord text) := by
  rw [parseChars, takeOperation?_eq_none_iff.mpr h]

/-- What a text with an operation and no subject is refused for. -/
theorem parseChars_of_not_beginsWithSubject {operation : Operation} {rest : List Char}
    (h : ¬ BeginsWithSubject rest) :
    parseChars (operation.keyword.toList ++ rest) =
      .error (.unknownSubject, leadingWord rest) := by
  rw [parseChars, takeOperation?_append]
  simp only [takeSubject?_eq_none_iff.mpr h]

/-- Behind an operation and a subject, the header ends somewhere. -/
theorem exists_header (operation : Operation) {text : List Char} (h : BeginsWithSubject text) :
    ∃ (header : Header) (rest : List Char),
      operation.keyword.toList ++ text = header.chars ++ rest ∧ header.EndsBefore rest := by
  obtain ⟨subject, rest, rfl, hword⟩ := h
  obtain ⟨htext, hmark⟩ := takePolarity_eq_iff.mp (Prod.eta (takePolarity rest)).symm
  refine ⟨⟨operation, subject, (takePolarity rest).1⟩, (takePolarity rest).2, ?_, ?_, hmark⟩
  · rw [Header.chars, List.append_assoc, List.append_assoc, ← htext]
  · rw [← htext]
    exact hword

/-- A text has no operation, or an operation and no subject, or a whole header. -/
theorem header_cases (text : List Char) :
    ¬ BeginsWithOperation text ∨
      (∃ (operation : Operation) (rest : List Char),
        text = operation.keyword.toList ++ rest ∧ ¬ BeginsWithSubject rest) ∨
      ∃ (header : Header) (rest : List Char),
        text = header.chars ++ rest ∧ header.EndsBefore rest := by
  by_cases hop : BeginsWithOperation text
  · obtain ⟨operation, rest, rfl⟩ := hop
    by_cases hsubject : BeginsWithSubject rest
    · obtain ⟨header, behind, htext, hend⟩ := exists_header operation hsubject
      exact .inr (.inr ⟨header, behind, htext, hend⟩)
    · exact .inr (.inl ⟨operation, rest, rfl, hsubject⟩)
  · exact .inl hop

/-! ### The grammar -/

/-- A text is read as a rule exactly if it is a proper form that says the rule. -/
theorem parseChars_eq_ok_iff {text : List Char} {rule : Rule} :
    parseChars text = .ok rule ↔
      ∃ form : Form, text = form.chars ∧ form.IsProper ∧ rule = form.rule := by
  constructor
  · intro h
    -- A text whose header is not whole is refused, so that only the third case is left.
    rcases header_cases text with hop | ⟨operation, rest, rfl, hsubject⟩ |
      ⟨header, rest, rfl, hend⟩
    · rw [parseChars_of_not_beginsWithOperation hop] at h
      exact absurd h (by simp)
    · rw [parseChars_of_not_beginsWithSubject hsubject] at h
      exact absurd h (by simp)
    · rw [parseChars_header_append hend] at h
      cases hcontent : takeContent? rest with
      | none => simp [hcontent] at h
      | some content =>
        obtain ⟨rfl, -⟩ := takeContent?_eq_some_iff.mp hcontent
        rw [hcontent] at h
        dsimp only at h
        split at h
        · exact absurd h (by simp)
        · rename_i hprimary
          exact ⟨⟨header, content⟩, rfl, by simpa [Form.IsProper] using hprimary,
            (Except.ok.inj h).symm⟩
  · rintro ⟨form, rfl, hproper, rfl⟩
    exact parseChars_of_proper hproper

theorem parse_eq_ok_iff {raw : String} {rule : Rule} :
    parse raw = .ok rule ↔ parseChars (trim raw.toList) = .ok rule := by
  rw [parse, mapError_eq_ok_iff]

/-- **The grammar of rules.**  A text is read as some rule exactly if it is, without the blanks
    around it, a proper form.  There is one such form, and the rule is what it says. -/
theorem parse_iff_form (raw : String) :
    ((∃ rule, parse raw = .ok rule) ↔
      ∃ form : Form, trim raw.toList = form.chars ∧ form.IsProper) ∧
    (∀ rule, parse raw = .ok rule ↔
      ∃! form : Form, trim raw.toList = form.chars ∧ form.IsProper ∧ rule = form.rule) ∧
    Function.Injective Form.chars := by
  have hread (rule : Rule) : parse raw = .ok rule ↔
      ∃ form : Form, trim raw.toList = form.chars ∧ form.IsProper ∧ rule = form.rule := by
    rw [parse_eq_ok_iff, parseChars_eq_ok_iff]
  refine ⟨⟨?_, ?_⟩, ?_, Form.chars_injective⟩
  · rintro ⟨rule, h⟩
    obtain ⟨form, htext, hproper, -⟩ := (hread rule).mp h
    exact ⟨form, htext, hproper⟩
  · rintro ⟨form, htext, hproper⟩
    exact ⟨form.rule, (hread form.rule).mpr ⟨form, htext, hproper, rfl⟩⟩
  · intro rule
    rw [hread rule]
    constructor
    · rintro ⟨form, htext, hproper, hrule⟩
      refine ⟨form, ⟨htext, hproper, hrule⟩, ?_⟩
      rintro other ⟨hother, -, -⟩
      exact Form.chars_injective (hother.symm.trans htext)
    · rintro ⟨form, h, -⟩
      exact ⟨form, h⟩

end SchemaFilter.Rule
