import SchemaFilter.Proofs.Rule.Form

/-!
# Where a rule is refused

An error tells which part of a text does not belong there.  What stands before that part has been
accepted, and how far that is decides of which kind the error is.

* `Refused` — the ways to be refused: of which kind, behind what, and at which part of the text;
* `parse_eq_error_iff` — a text is refused exactly in these ways;
* `parse_error_located` — **errors**: each names its rule and its place, its kind says how far the
  header went, and the rule that it names is refused alike.
-/

namespace SchemaFilter.Rule

/-! ### The word that a text begins with -/

/-- The word is the longest one that `word ++ behind` begins with, or all of a text that begins
    with none. -/
def IsLeadingWord (word behind : List Char) : Prop :=
  (word ≠ [] ∧ (∀ c ∈ word, isWordChar c = true) ∧ EndsWord behind) ∨
    (EndsWord word ∧ behind = [])

/-- The longest word of a text that begins with no word is empty. -/
private theorem takeWhile_eq_nil_iff {text : List Char} :
    text.takeWhile isWordChar = [] ↔ EndsWord text := by
  cases text with
  | nil => simp [EndsWord]
  | cons c cs => by_cases hc : isWordChar c <;> simp [EndsWord, hc]

theorem leadingWord_eq_iff {text word : List Char} :
    leadingWord text = word ↔ ∃ behind, text = word ++ behind ∧ IsLeadingWord word behind := by
  rw [leadingWord]
  constructor
  · intro h
    split at h
    · rename_i hnil
      refine ⟨[], by rw [List.append_nil, h], .inr ⟨?_, rfl⟩⟩
      rw [← h]
      exact takeWhile_eq_nil_iff.mp hnil
    · rename_i hne
      refine ⟨text.dropWhile isWordChar, ?_, .inl ⟨h ▸ hne, ?_, ?_⟩⟩
      · rw [← h, List.takeWhile_append_dropWhile]
      · rw [← h]
        exact fun c hc => List.mem_takeWhile_imp hc
      · intro c hc
        have hhead := List.head?_dropWhile_not isWordChar text
        rw [Option.mem_def.mp hc] at hhead
        exact hhead
  · rintro ⟨behind, rfl, ⟨hne, hword, hbehind⟩ | ⟨hword, rfl⟩⟩
    · have htake : (word ++ behind).takeWhile isWordChar = word := by
        rw [List.takeWhile_append_of_pos hword, takeWhile_eq_nil_iff.mpr hbehind,
          List.append_nil]
      rw [htake, if_neg hne]
    · rw [List.append_nil, takeWhile_eq_nil_iff.mpr hword, if_pos rfl]

/-! ### How far a header goes -/

/-- The text begins with an operation, and no subject stands behind it. -/
def LacksSubject (text : List Char) : Prop :=
  ∃ (operation : Operation) (rest : List Char),
    text = operation.keyword.toList ++ rest ∧ ¬ BeginsWithSubject rest

/-- The text begins with an operation, and a subject stands behind it. -/
def BeginsWithHeader (text : List Char) : Prop :=
  ∃ (operation : Operation) (rest : List Char),
    text = operation.keyword.toList ++ rest ∧ BeginsWithSubject rest

theorem LacksSubject.beginsWithOperation {text : List Char} (h : LacksSubject text) :
    BeginsWithOperation text := by
  obtain ⟨operation, rest, rfl, -⟩ := h
  exact ⟨operation, rest, rfl⟩

theorem BeginsWithHeader.beginsWithOperation {text : List Char} (h : BeginsWithHeader text) :
    BeginsWithOperation text := by
  obtain ⟨operation, rest, rfl, -⟩ := h
  exact ⟨operation, rest, rfl⟩

/-- The operation can be read in one way only, so that a subject stands behind it or not. -/
theorem LacksSubject.not_beginsWithHeader {text : List Char} (h : LacksSubject text) :
    ¬ BeginsWithHeader text := by
  obtain ⟨op₁, rest₁, rfl, hlacks⟩ := h
  rintro ⟨op₂, rest₂, heq, hsubject⟩
  have htaken := takeOperation?_append op₁ rest₁
  rw [heq, takeOperation?_append, Option.some.injEq, Prod.mk.injEq] at htaken
  exact hlacks (htaken.2 ▸ hsubject)

theorem Header.beginsWithHeader {header : Header} {rest : List Char}
    (hend : header.EndsBefore rest) : BeginsWithHeader (header.chars ++ rest) := by
  refine ⟨header.operation, header.declared.keyword.toList ++ (header.polarity.mark ++ rest), ?_,
    header.declared, header.polarity.mark ++ rest, rfl, hend.1⟩
  simp [Header.chars]

/-! ### The ways to be refused -/

/-- The text `before ++ fragment ++ after` is refused: `before` is the part of its header that has
    been accepted, and `fragment` is what does not belong behind it. -/
inductive Refused : ParseErrorKind → (before fragment after : List Char) → Prop
  /-- There is no operation. -/
  | operation {word behind : List Char} (hnone : ¬ BeginsWithOperation (word ++ behind))
      (hword : IsLeadingWord word behind) :
      Refused .unknownOperation [] word behind
  /-- There is no subject behind the operation. -/
  | subject {operation : Operation} {word behind : List Char}
      (hnone : ¬ BeginsWithSubject (word ++ behind)) (hword : IsLeadingWord word behind) :
      Refused .unknownSubject operation.keyword.toList word behind
  /-- What stands behind the header is not a content in parentheses, or one that is blank. -/
  | parentheses {header : Header} {rest : List Char} (hend : header.EndsBefore rest)
      (hnone : ∀ content, rest = '(' :: (content ++ [')']) → allBlank content = true) :
      Refused .malformed header.chars rest []
  /-- The content is not blank, but what stands before its first comma is. -/
  | pattern {form : Form} (hcontent : allBlank form.content = false)
      (hblank : allBlank form.primary = true) :
      Refused .malformed (form.header.chars ++ ['(']) form.content [')']

/-- A text is refused exactly in one of the ways. -/
theorem parseChars_eq_error_iff {text fragment : List Char} {kind : ParseErrorKind} :
    parseChars text = .error (kind, fragment) ↔
      ∃ before after, text = before ++ fragment ++ after ∧
        Refused kind before fragment after := by
  constructor
  · intro h
    rcases header_cases text with hop | ⟨operation, rest, rfl, hsubject⟩ |
      ⟨header, rest, rfl, hend⟩
    · rw [parseChars_of_not_beginsWithOperation hop, Except.error.injEq, Prod.mk.injEq] at h
      obtain ⟨rfl, hword⟩ := h
      obtain ⟨behind, rfl, hleading⟩ := leadingWord_eq_iff.mp hword
      exact ⟨[], behind, rfl, .operation hop hleading⟩
    · rw [parseChars_of_not_beginsWithSubject hsubject, Except.error.injEq, Prod.mk.injEq] at h
      obtain ⟨rfl, hword⟩ := h
      obtain ⟨behind, rfl, hleading⟩ := leadingWord_eq_iff.mp hword
      exact ⟨operation.keyword.toList, behind, (List.append_assoc ..).symm,
        .subject hsubject hleading⟩
    · rw [parseChars_header_append hend] at h
      cases htaken : takeContent? rest with
      | none =>
        rw [htaken, Except.error.injEq, Prod.mk.injEq] at h
        obtain ⟨rfl, rfl⟩ := h
        exact ⟨header.chars, [], (List.append_nil _).symm,
          .parentheses hend (takeContent?_eq_none_iff.mp htaken)⟩
      | some content =>
        obtain ⟨rfl, hcontent⟩ := takeContent?_eq_some_iff.mp htaken
        rw [htaken] at h
        dsimp only at h
        split at h
        · -- The fragment is the content alone, and the parentheses go to either side of it.
          rename_i hblank
          rw [Except.error.injEq, Prod.mk.injEq] at h
          obtain ⟨rfl, rfl⟩ := h
          refine ⟨header.chars ++ ['('], [')'], by simp, ?_⟩
          exact @Refused.pattern ⟨header, content⟩ hcontent hblank
        · exact absurd h (by simp)
  · rintro ⟨before, after, rfl, hrefused⟩
    cases hrefused with
    | operation hnone hword =>
      rw [List.nil_append, parseChars_of_not_beginsWithOperation hnone,
        leadingWord_eq_iff.mpr ⟨after, rfl, hword⟩]
    | subject hnone hword =>
      rw [List.append_assoc, parseChars_of_not_beginsWithSubject hnone,
        leadingWord_eq_iff.mpr ⟨after, rfl, hword⟩]
    | parentheses hend hnone =>
      rw [List.append_nil, parseChars_header_append hend, takeContent?_eq_none_iff.mpr hnone]
    | @pattern form hcontent hblank =>
      have hchars : form.header.chars ++ ['('] ++ form.content ++ [')'] = form.chars := by
        simp [Form.chars]
      rw [hchars, parseChars_form hcontent, if_pos hblank]

/-- The kind of an error says how far the header of the text goes. -/
theorem Refused.kind_iff {kind : ParseErrorKind} {before fragment after : List Char}
    (h : Refused kind before fragment after) :
    (kind = .unknownOperation ↔ ¬ BeginsWithOperation (before ++ fragment ++ after)) ∧
    (kind = .unknownSubject ↔ LacksSubject (before ++ fragment ++ after)) ∧
    (kind = .malformed ↔ BeginsWithHeader (before ++ fragment ++ after)) := by
  -- How far the header goes is known in each case, and that it goes no other way follows.
  have of_header {text : List Char} (htext : BeginsWithHeader text) :
      BeginsWithOperation text ∧ ¬ LacksSubject text :=
    ⟨htext.beginsWithOperation, fun hlacks => hlacks.not_beginsWithHeader htext⟩
  cases h with
  | operation hnone hword =>
    rw [List.nil_append]
    have hlacks : ¬ LacksSubject (fragment ++ after) := mt LacksSubject.beginsWithOperation hnone
    have hheader : ¬ BeginsWithHeader (fragment ++ after) :=
      mt BeginsWithHeader.beginsWithOperation hnone
    simp [hnone, hlacks, hheader]
  | @subject operation _ _ hnone hword =>
    rw [List.append_assoc]
    have hlacks : LacksSubject (operation.keyword.toList ++ (fragment ++ after)) :=
      ⟨operation, _, rfl, hnone⟩
    simp [hlacks.beginsWithOperation, hlacks, hlacks.not_beginsWithHeader]
  | parentheses hend hnone =>
    rw [List.append_nil]
    have hheader := Header.beginsWithHeader hend
    simp [of_header hheader, hheader]
  | @pattern form hcontent hblank =>
    have hheader : BeginsWithHeader (form.header.chars ++ ['('] ++ form.content ++ [')']) := by
      rw [List.append_assoc, List.append_assoc]
      exact Header.beginsWithHeader (form.header.endsBefore_paren _)
    simp only [of_header hheader, hheader]
    simp

/-! ### Errors -/

theorem parse_eq_error_iff {raw : String} {e : ParseError} :
    parse raw = .error e ↔ e.rule.toList = trim raw.toList ∧
      ∃ before after, e.rule.toList = before ++ e.fragment.toList ++ after ∧
        Refused e.kind before e.fragment.toList after := by
  obtain ⟨kind, rule, fragment⟩ := e
  rw [parse, mapError_eq_error_iff]
  constructor
  · rintro ⟨⟨kind', fragment'⟩, herror, heq⟩
    obtain ⟨rfl, rfl, rfl⟩ := ParseError.mk.inj heq
    simp only [String.toList_ofList, true_and]
    exact parseChars_eq_error_iff.mp herror
  · rintro ⟨hrule, hlocated⟩
    refine ⟨(kind, fragment.toList), parseChars_eq_error_iff.mpr (hrule ▸ hlocated), ?_⟩
    show ParseError.mk kind (.ofList (trim raw.toList)) (.ofList fragment.toList) = _
    rw [← hrule, String.ofList_toList, String.ofList_toList]

/-- **Errors.**  An error names the text that is refused, without the blanks around it, and the
    part of it that does not belong behind what has been accepted.  Its kind says how far the
    header goes, and the text that it names is refused with the same error. -/
theorem parse_error_located {raw : String} {e : ParseError} (h : parse raw = .error e) :
    e.rule.toList = trim raw.toList ∧
    (∃ before after, e.rule.toList = before ++ e.fragment.toList ++ after ∧
      Refused e.kind before e.fragment.toList after) ∧
    (e.kind = .unknownOperation ↔ ¬ BeginsWithOperation e.rule.toList) ∧
    (e.kind = .unknownSubject ↔ LacksSubject e.rule.toList) ∧
    (e.kind = .malformed ↔ BeginsWithHeader e.rule.toList) ∧
    parse e.rule = .error e := by
  obtain ⟨hrule, before, after, htext, hrefused⟩ := parse_eq_error_iff.mp h
  have hkind := hrefused.kind_iff
  rw [← htext] at hkind
  refine ⟨hrule, ⟨before, after, htext, hrefused⟩, hkind.1, hkind.2.1, hkind.2.2, ?_⟩
  rw [parse_eq_error_iff]
  refine ⟨?_, before, after, htext, hrefused⟩
  rw [hrule, trim_trim]

/-- A content that begins with a comma is refused without the parentheses around it. -/
theorem parse_error_located_comma_first :
    let e : ParseError := ⟨.malformed, "IgnoreType!( , dbo)", " , dbo"⟩
    parse "\t IgnoreType!( , dbo)\n" = .error e ∧
    (∃ before after, e.rule.toList = before ++ e.fragment.toList ++ after ∧
      Refused e.kind before e.fragment.toList after) ∧
    BeginsWithHeader e.rule.toList ∧ parse e.rule = .error e := by
  have h : parse "\t IgnoreType!( , dbo)\n" =
      .error ⟨.malformed, "IgnoreType!( , dbo)", " , dbo"⟩ := by decide
  obtain ⟨-, hlocated, -, -, hkind, hagain⟩ := parse_error_located h
  exact ⟨h, hlocated, hkind.mp rfl, hagain⟩

end SchemaFilter.Rule
