import SchemaFilter.Text.Split

/-!
# What cutting a text gives

The functions that cut texts, each by what it finds.

* `stripPrefix?_eq_some_iff` — fixed prefixes;
* `betweenParens?_eq_some_iff` — parentheses around a text;
* `splitOn_cons_self`, `exists_splitOn_cons` — how a first character changes the pieces;
* `piecesAt_eq_splitOn` — the pieces between separators are those of `List.splitOn`;
* `flatten_splitOn` — the pieces are the text without its separators;
* `splitOn_append_flatMap` — pieces that are put together with separators are found again;
* `cutAt?_singleton` — the text before the first of some character, and the text behind it;
* `joinWith_cons`, `joinWith_eq_intercalate` — how pieces are put together.
-/

namespace SchemaFilter

/-! ### Fixed prefixes and parentheses -/

/-- A prefix is taken off exactly if it stands there. -/
theorem stripPrefix?_eq_some_iff {front text rest : List Char} :
    stripPrefix? front text = some rest ↔ text = front ++ rest := by
  induction front generalizing text with
  | nil => simp [stripPrefix?]
  | cons f fs ih =>
    cases text with
    | nil => simp [stripPrefix?]
    | cons c cs =>
      by_cases h : f = c
      · subst h
        simp [stripPrefix?, ih]
      · simp [stripPrefix?, h, Ne.symm h]

/-- What stands between parentheses is everything but the two. -/
theorem betweenParens?_eq_some_iff {text inner : List Char} :
    betweenParens? text = some inner ↔ text = '(' :: (inner ++ [')']) := by
  constructor
  · intro h
    unfold betweenParens? at h
    split at h
    · rename_i tail
      split at h
      · rename_i hlast
        obtain ⟨before, rfl⟩ := List.getLast?_eq_some_iff.mp hlast
        rw [List.dropLast_concat, Option.some.injEq] at h
        rw [h]
      · exact absurd h (by simp)
    · exact absurd h (by simp)
  · rintro rfl
    simp [betweenParens?]

/-! ### What stands before a character, and behind it -/

/-- A text is cut at the first of some character, if there is one. -/
theorem cutAt?_singleton (sep : Char) (text : List Char) :
    cutAt? [sep] text =
      if sep ∈ text then
        some (text.takeWhile (· ≠ sep), (text.dropWhile (· ≠ sep)).tail)
      else none := by
  induction text with
  | nil => rfl
  | cons c cs ih =>
    by_cases hc : sep = c
    · subst hc
      simp [cutAt?, stripPrefix?]
    · have hmem : sep ∈ c :: cs ↔ sep ∈ cs := by simp [hc]
      have hne : c ≠ sep := Ne.symm hc
      simp only [cutAt?, stripPrefix?, if_neg hc, ih, hmem]
      split <;> simp [hne]

/-! ### Pieces between separators -/

variable {α : Type} [DecidableEq α]

/-- In front of a separator stands an empty piece. -/
theorem splitOn_cons_self (sep : α) (text : List α) :
    (sep :: text).splitOn sep = [] :: text.splitOn sep := by
  rw [List.splitOn_cons_eq_if_modifyHead, if_pos (beq_self_eq_true sep)]

/-- Any other character belongs to the first piece of what follows. -/
theorem exists_splitOn_cons {sep c : α} (h : c ≠ sep) (text : List α) :
    ∃ first others, text.splitOn sep = first :: others ∧
      (c :: text).splitOn sep = (c :: first) :: others := by
  obtain ⟨first, others, hsplit⟩ := List.exists_cons_of_ne_nil (List.splitOn_ne_nil sep text)
  refine ⟨first, others, hsplit, ?_⟩
  rw [List.splitOn_cons_eq_if_modifyHead, if_neg (by simpa using h), hsplit, List.modifyHead_cons]

/-- The pieces between separators are those of `List.splitOn`. -/
theorem piecesAt_eq_splitOn (sep : α) (text : List α) : piecesAt sep text = text.splitOn sep := by
  induction text with
  | nil => rfl
  | cons c cs ih =>
    rw [piecesAt, ih]
    by_cases h : c = sep
    · rw [if_pos h, h, splitOn_cons_self]
    · obtain ⟨first, others, hrest, hsplit⟩ := exists_splitOn_cons h cs
      rw [if_neg h, hrest, hsplit]

/-- The first piece goes up to the first separator. -/
theorem headD_splitOn (sep : α) (text : List α) :
    (text.splitOn sep).headD [] = text.takeWhile (· ≠ sep) := by
  induction text with
  | nil => rfl
  | cons c cs ih =>
    by_cases h : c = sep
    · subst h
      rw [splitOn_cons_self, List.takeWhile_cons_of_neg (by simp), List.headD_cons]
    · obtain ⟨first, others, hrest, hsplit⟩ := exists_splitOn_cons h cs
      rw [hrest, List.headD_cons] at ih
      rw [hsplit, List.takeWhile_cons_of_pos (by simpa using h), List.headD_cons, ih]

/-- No piece holds a separator. -/
theorem not_mem_of_mem_splitOn {sep : α} {text piece : List α} (h : piece ∈ text.splitOn sep) :
    sep ∉ piece := by
  induction text generalizing piece with
  | nil =>
    rw [List.splitOn_nil, List.mem_singleton] at h
    simp [h]
  | cons c cs ih =>
    by_cases hc : c = sep
    · rw [hc, splitOn_cons_self] at h
      rcases List.mem_cons.mp h with rfl | h
      · simp
      · exact ih h
    · obtain ⟨first, others, hrest, hsplit⟩ := exists_splitOn_cons hc cs
      rw [hrest] at ih
      rw [hsplit] at h
      rcases List.mem_cons.mp h with rfl | h
      · simp [Ne.symm hc, ih List.mem_cons_self]
      · exact ih (List.mem_cons_of_mem first h)

/-- The pieces, one behind the other, are the text without its separators. -/
theorem flatten_splitOn (sep : α) (text : List α) :
    (text.splitOn sep).flatten = text.filter (· ≠ sep) := by
  induction text with
  | nil => rfl
  | cons c cs ih =>
    by_cases h : c = sep
    · subst h
      rw [splitOn_cons_self, List.flatten_cons, ih, List.filter_cons_of_neg (by simp),
        List.nil_append]
    · obtain ⟨first, others, hrest, hsplit⟩ := exists_splitOn_cons h cs
      rw [hrest, List.flatten_cons] at ih
      rw [hsplit, List.filter_cons_of_pos (by simpa using h), ← ih, List.flatten_cons,
        List.cons_append]

/-- What stands in a piece stands in the text. -/
theorem mem_of_mem_splitOn {sep c : α} {text piece : List α} (hpiece : piece ∈ text.splitOn sep)
    (hc : c ∈ piece) : c ∈ text := by
  have hmem : c ∈ (text.splitOn sep).flatten := List.mem_flatten.mpr ⟨piece, hpiece, hc⟩
  rw [flatten_splitOn] at hmem
  exact (List.mem_filter.mp hmem).1

/-- A piece, and behind it others that each follow a separator, are found again if the separator
    stands in none of them. -/
theorem splitOn_append_flatMap {sep : α} {piece : List α} {pieces : List (List α)}
    (hpiece : sep ∉ piece) (hpieces : ∀ p ∈ pieces, sep ∉ p) :
    (piece ++ pieces.flatMap (sep :: ·)).splitOn sep = piece :: pieces := by
  induction pieces generalizing piece with
  | nil =>
    rw [List.flatMap_nil, List.append_nil]
    exact List.splitOn_eq_singleton hpiece
  | cons next others ih =>
    rw [List.flatMap_cons, List.cons_append, List.splitOn_append_cons_self_of_not_mem hpiece,
      ih (hpieces next List.mem_cons_self) fun p hp => hpieces p (List.mem_cons_of_mem next hp)]

/-! ### Pieces put together -/

/-- Behind the first piece, each piece follows a separator. -/
theorem joinWith_cons (sep piece : List Char) (pieces : List (List Char)) :
    joinWith sep (piece :: pieces) = piece ++ pieces.flatMap (sep ++ ·) := by
  induction pieces generalizing piece with
  | nil => rw [joinWith, List.flatMap_nil, List.append_nil]
  | cons next pieces ih =>
    rw [joinWith, ih, List.flatMap_cons, List.append_assoc, List.append_assoc]
    exact List.cons_ne_nil next pieces

/-- Pieces are put together as `List.intercalate` does it. -/
theorem joinWith_eq_intercalate (sep : List Char) (pieces : List (List Char)) :
    joinWith sep pieces = sep.intercalate pieces := by
  induction pieces with
  | nil => rfl
  | cons piece pieces ih =>
    cases pieces with
    | nil => simp [joinWith]
    | cons next pieces => rw [List.intercalate_cons_cons, ← ih, joinWith]; simp

end SchemaFilter
