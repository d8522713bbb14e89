import SchemaFilter.Proofs.Text.Pieces
import SchemaFilter.Proofs.Text.Trim
import SchemaFilter.Rule.Basic
import SchemaFilter.Rule.Content

/-!
# Contents, read and written

Reading what stands between the parentheses of a rule takes commas and blanks off and leaves the
rest as it is.  What has been read can be written down again and stays the same from there on.

* `Content.read_of_splitOn` — what is read from a text that is cut at commas;
* `Content.essence`, `essence_read` — what a text holds besides commas and blanks is kept;
* `Content.chars`, `splitOn_chars` — a content as it is written, and where the commas in it stand;
* `Content.IsSettled`, `read_chars_eq_self_iff` — the contents that are read from what is written
  of them;
* `read_keeps_and_settles` — **reading a content**: no more is lost than commas and blanks, the
  options are proper ones, and the content is settled.
-/

namespace SchemaFilter

namespace Content

/-! ### What is read -/

/-- Of a text that is cut at commas, the first piece is the pattern, and those of the others that
    are not blank are the options. -/
theorem read_of_splitOn {declared : Subject} {text first : List Char} {others : List (List Char)}
    (hverbatim : ¬ isVerbatim declared text = true)
    (hsplit : text.splitOn ',' = first :: others) :
    read declared text =
      { subject := declared
        pattern := .ofList (trim first)
        options := ((others.map trim).filter (· ≠ [])).map String.ofList } := by
  rw [read, if_neg hverbatim, piecesAt_eq_splitOn, separator, hsplit]
  rfl

/-- A text is taken as it is, or it has a first piece and others. -/
theorem verbatim_or_splitOn (declared : Subject) (text : List Char) :
    isVerbatim declared text = true ∨
      ¬ isVerbatim declared text = true ∧ ∃ first others, text.splitOn ',' = first :: others := by
  by_cases hverbatim : isVerbatim declared text = true
  · exact .inl hverbatim
  · exact .inr ⟨hverbatim, List.exists_cons_of_ne_nil (List.splitOn_ne_nil ',' text)⟩

/-! ### What reading keeps -/

/-- What a text holds besides commas and blanks. -/
def essence (text : List Char) : List Char :=
  text.filter fun c => c ≠ ',' && !isBlank c

@[simp] theorem essence_append (front behind : List Char) :
    essence (front ++ behind) = essence front ++ essence behind :=
  List.filter_append front behind

theorem essence_of_allBlank {text : List Char} (h : allBlank text = true) : essence text = [] := by
  rw [allBlank_eq_true_iff] at h
  rw [essence, List.filter_eq_nil_iff]
  intro c hc
  simp [h c hc]

/-- The blanks around a text do not count. -/
@[simp] theorem essence_trim (text : List Char) : essence (trim text) = essence text := by
  obtain ⟨left, right, htext, hleft, hright⟩ := exists_eq_append_trim text
  calc essence (trim text)
      = essence left ++ essence (trim text) ++ essence right := by
        rw [essence_of_allBlank hleft, essence_of_allBlank hright, List.nil_append, List.append_nil]
    _ = essence text := by rw [← essence_append, ← essence_append, ← htext]

/-- The blanks around pieces do not count, wherever the pieces stand. -/
theorem essence_flatten_map_trim (pieces : List (List Char)) :
    essence (pieces.map trim).flatten = essence pieces.flatten := by
  induction pieces with
  | nil => rfl
  | cons piece pieces ih =>
    rw [List.map_cons, List.flatten_cons, List.flatten_cons, essence_append, essence_append,
      essence_trim, ih]

/-- The commas between pieces do not count. -/
theorem essence_flatten_splitOn (text : List Char) :
    essence (text.splitOn ',').flatten = essence text := by
  rw [flatten_splitOn, essence, essence, List.filter_filter]
  refine List.filter_congr fun c _ => ?_
  by_cases h : c = ',' <;> simp [h]

/-- The pattern and the options hold what the text holds, in its order. -/
theorem essence_read (declared : Subject) (text : List Char) :
    essence (((read declared text).pattern :: (read declared text).options).flatMap String.toList) =
      essence text := by
  rcases verbatim_or_splitOn declared text with hverbatim | ⟨hverbatim, first, others, hsplit⟩
  · simp [read, hverbatim]
  · -- Blank pieces are dropped, but they have nothing to add.
    have hoptions : (((others.map trim).filter (· ≠ [])).map String.ofList).flatMap String.toList =
        (others.map trim).flatten := by
      rw [List.flatMap_map, ← List.flatten_filter_ne_nil (L := others.map trim)]
      simp
    rw [read_of_splitOn hverbatim hsplit, List.flatMap_cons, String.toList_ofList, hoptions]
    calc essence (trim first ++ (others.map trim).flatten)
        = essence ((first :: others).map trim).flatten := rfl
      _ = essence (text.splitOn ',').flatten := by rw [essence_flatten_map_trim, hsplit]
      _ = essence text := essence_flatten_splitOn text

/-! ### What is written -/

/-- A content as it is written: the pattern, and behind it the options, a comma and a blank before
    each. -/
def chars (content : Content) : List Char :=
  joinWith [',', ' '] ((content.pattern :: content.options).map String.toList)

/-- What is written, cut at commas, where they stand nowhere but between the pattern and the
    options. -/
theorem splitOn_chars {content : Content} (hpattern : ',' ∉ content.pattern.toList)
    (hoptions : ∀ option ∈ content.options, ',' ∉ option.toList) :
    content.chars.splitOn ',' =
      content.pattern.toList :: content.options.map (' ' :: ·.toList) := by
  have hchars : content.chars =
      content.pattern.toList ++ (content.options.map (' ' :: ·.toList)).flatMap (',' :: ·) := by
    rw [chars, List.map_cons, joinWith_cons, List.flatMap_map, List.flatMap_map]
    rfl
  rw [hchars]
  refine splitOn_append_flatMap hpattern ?_
  intro piece hpiece
  obtain ⟨option, hoption, rfl⟩ := List.mem_map.mp hpiece
  simpa using hoptions option hoption

theorem chars_of_options_eq_nil {content : Content} (h : content.options = []) :
    content.chars = content.pattern.toList := by
  rw [chars, h]
  rfl

/-! ### Settled contents -/

/-- The text can stand between commas, be it empty: no blank surrounds it, and there is no comma in
    it. -/
def IsSegment (text : String) : Prop :=
  trimmed text = text ∧ ',' ∉ text.toList

/-- The pattern and the options can be told apart where they are written. -/
def IsSettled (content : Content) : Prop :=
  match content.subject with
  | .schema | .objectType =>
    IsSegment content.pattern ∧ ∀ option ∈ content.options, option ≠ "" ∧ IsSegment option
  | .name => IsSegment content.pattern ∧ content.options = []
  | .multiPartName => content.options = []

/-- Without the blanks around it, what stands between commas can stand there again. -/
theorem isSegment_trim {piece : List Char} (h : ',' ∉ piece) :
    IsSegment (.ofList (trim piece)) := by
  constructor
  · rw [trimmed_eq_self_iff, String.toList_ofList, trim_trim]
  · rw [String.toList_ofList]
    exact fun hmem => h (mem_of_mem_trim hmem)

/-- What is read is settled. -/
theorem isSettled_read (declared : Subject) (text : List Char) :
    (read declared text).IsSettled := by
  rcases verbatim_or_splitOn declared text with hverbatim | ⟨hverbatim, first, others, hsplit⟩
  · rw [read, if_pos hverbatim]
    exact rfl
  · have hcomma : ∀ piece ∈ first :: others, ',' ∉ piece := fun piece hpiece =>
      not_mem_of_mem_splitOn (hsplit ▸ hpiece)
    have hpattern : IsSegment (.ofList (trim first)) := isSegment_trim (hcomma first (by simp))
    have hoptions : ∀ option ∈ ((others.map trim).filter (· ≠ [])).map String.ofList,
        option ≠ "" ∧ IsSegment option := by
      intro option hoption
      obtain ⟨shown, hshown, rfl⟩ := List.mem_map.mp hoption
      obtain ⟨hmem, hne⟩ := List.mem_filter.mp hshown
      obtain ⟨piece, hpiece, rfl⟩ := List.mem_map.mp hmem
      exact ⟨by simpa using hne, isSegment_trim (hcomma piece (List.mem_cons_of_mem _ hpiece))⟩
    rw [read_of_splitOn hverbatim hsplit]
    cases declared with
    | schema => exact ⟨hpattern, hoptions⟩
    | objectType => exact ⟨hpattern, hoptions⟩
    | name =>
      -- A name that is cut holds no comma, and so there is one piece.
      have hmem : ',' ∉ text := by simpa [isVerbatim, separator] using hverbatim
      rw [List.splitOn_eq_singleton hmem, List.cons.injEq] at hsplit
      obtain ⟨-, rfl⟩ := hsplit
      exact ⟨hpattern, rfl⟩
    | multiPartName => exact absurd rfl hverbatim

/-- A pattern and options that can stand between commas are found again. -/
private theorem read_chars_of_segments {content : Content}
    (hverbatim : ¬ isVerbatim content.subject content.chars = true)
    (hpattern : IsSegment content.pattern)
    (hoptions : ∀ option ∈ content.options, option ≠ "" ∧ IsSegment option) :
    read content.subject content.chars = content := by
  have hsplit := splitOn_chars hpattern.2 fun option h => (hoptions option h).2.2
  -- The blank that is written behind each comma is taken off again.
  have htrim : (content.options.map (' ' :: ·.toList)).map trim =
      content.options.map String.toList := by
    rw [List.map_map]
    refine List.map_congr_left fun option h => ?_
    exact (trim_cons_of_blank (by decide) _).trans
      (trimmed_eq_self_iff.mp (hoptions option h).2.1)
  have hkept : (content.options.map String.toList).filter (· ≠ []) =
      content.options.map String.toList := by
    rw [List.filter_eq_self]
    intro text htext
    obtain ⟨option, h, rfl⟩ := List.mem_map.mp htext
    simpa using (hoptions option h).1
  rw [read_of_splitOn hverbatim hsplit, htrim, hkept, trimmed_eq_self_iff.mp hpattern.1]
  simp [Function.comp_def]

theorem read_chars_of_isSettled {content : Content} (h : content.IsSettled) :
    read content.subject content.chars = content := by
  obtain ⟨subject, pattern, options⟩ := content
  cases subject with
  | schema => exact read_chars_of_segments (by simp [isVerbatim]) h.1 h.2
  | objectType => exact read_chars_of_segments (by simp [isVerbatim]) h.1 h.2
  | name =>
    obtain ⟨hpattern, hoptions⟩ := h
    obtain rfl : options = [] := hoptions
    refine read_chars_of_segments ?_ hpattern (by simp)
    simpa [isVerbatim, separator, chars_of_options_eq_nil] using hpattern.2
  | multiPartName =>
    obtain rfl : options = [] := h
    simp [read, isVerbatim, chars_of_options_eq_nil]

/-- The settled contents are those that are read from what is written of them. -/
theorem read_chars_eq_self_iff {content : Content} :
    read content.subject content.chars = content ↔ content.IsSettled := by
  constructor
  · intro h
    rw [← h]
    exact isSettled_read content.subject content.chars
  · exact read_chars_of_isSettled

theorem IsSettled.of_mem_options {content : Content} (h : content.IsSettled) {option : String}
    (hoption : option ∈ content.options) : option ≠ "" ∧ IsSegment option := by
  unfold IsSettled at h
  split at h
  · exact h.2 option hoption
  · exact h.2 option hoption
  · simp [h.2] at hoption
  · simp [h] at hoption

/-- **Reading a content.**  Commas and blanks apart, the pattern and the options hold what the text
    holds, in its order.  No option is empty, has blanks around it or a comma in it; and the content
    is read again from the pattern and the options with a comma and a blank between each two. -/
theorem read_keeps_and_settles (declared : Subject) (text : List Char) :
    essence (((read declared text).pattern :: (read declared text).options).flatMap String.toList) =
      essence text ∧
    (∀ option ∈ (read declared text).options,
      option ≠ "" ∧ trimmed option = option ∧ ',' ∉ option.toList) ∧
    read (read declared text).subject (read declared text).chars = read declared text := by
  have hsettled : (read declared text).IsSettled := isSettled_read declared text
  refine ⟨essence_read declared text, ?_, read_chars_eq_self_iff.mpr hsettled⟩
  exact fun option hoption => hsettled.of_mem_options hoption

/-- A blank piece is no option, but the first makes an empty pattern. -/
example : read .objectType " ,, dbo ,".toList =
    { subject := .objectType, pattern := "", options := ["dbo"] } := by
  decide

end Content

/-! ### The content of a rule -/

/-- What stands between the parentheses of a rule. -/
def Rule.content (rule : Rule) : Content :=
  { subject := rule.subject, pattern := rule.pattern, options := rule.options }

theorem Rule.contentChars_eq (rule : Rule) : rule.contentChars = rule.content.chars := by
  rw [contentChars, Content.chars, List.map_cons, joinWith_cons, List.flatMap_map]
  rfl

end SchemaFilter
