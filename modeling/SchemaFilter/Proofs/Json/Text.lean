import SchemaFilter.Json.Text
import SchemaFilter.Json.Value

/-!
# Reading strings that were written

Each character that is written in a string, escaped or not, is read as that character, whatever
follows; and so is a whole string.

* `IsGap` — blanks that can stand between the parts of a JSON text;
* `skipBlanks_append` — gaps are passed over;
* `readBody_escapeChar_append` — one character;
* `readBody_flatMap_escapeChar` — **a string** is read back from what is written for it.
-/

namespace SchemaFilter.Json

/-! ### Gaps -/

/-- The blanks that JSON allows between the parts of a text. -/
def gapChars : List Char := [' ', '\n', '\t', '\r']

/-- The text is a gap between the parts of a JSON text. -/
def IsGap (text : List Char) : Prop :=
  ∀ c ∈ text, c ∈ gapChars

instance (text : List Char) : Decidable (IsGap text) :=
  List.decidableBAll _ text

theorem isDigit_of_mem_gapChars {c : Char} (hc : c ∈ gapChars) : c.isDigit = false := by
  simp only [gapChars, List.mem_cons, List.not_mem_nil, or_false] at hc
  rcases hc with rfl | rfl | rfl | rfl <;> decide

theorem isGap_nil : IsGap [] := List.forall_mem_nil _

theorem isGap_newLine (depth : Nat) : IsGap (Value.newLine depth) := by
  intro c hc
  rcases List.mem_cons.mp hc with rfl | hc
  · decide
  · rw [List.eq_of_mem_replicate hc]
    decide

theorem skipBlanks_cons_of_mem {c : Char} (hc : c ∈ gapChars) (text : List Char) :
    skipBlanks (c :: text) = skipBlanks text := by
  rw [skipBlanks]
  simp only [gapChars, List.mem_cons, List.not_mem_nil, or_false] at hc
  rcases hc with rfl | rfl | rfl | rfl <;> rfl

theorem skipBlanks_cons_of_notMem {c : Char} (hc : c ∉ gapChars) (text : List Char) :
    skipBlanks (c :: text) = c :: text := by
  simp only [gapChars, List.mem_cons, List.not_mem_nil, or_false, not_or] at hc
  simp [skipBlanks, hc]

/-- Gaps are passed over. -/
theorem skipBlanks_append {gap : List Char} (h : IsGap gap) (text : List Char) :
    skipBlanks (gap ++ text) = skipBlanks text := by
  induction gap with
  | nil => rfl
  | cons c gap ih =>
    obtain ⟨hc, hgap⟩ := List.forall_mem_cons.mp h
    rw [List.cons_append, skipBlanks_cons_of_mem hc, ih hgap]

/-! ### Characters -/

theorem hexValue?_hexDigit : ∀ n < 16, CharSet.hexValue? (hexDigit n) = some n := by
  decide

/-- The unit that is written for a control character. -/
theorem unit?_hexDigit {n : Nat} (h : n < 32) :
    unit? '0' '0' (hexDigit (n / 16)) (hexDigit (n % 16)) = some n := by
  have hzero : CharSet.hexValue? '0' = some 0 := by decide
  rw [unit?, hzero, hexValue?_hexDigit _ (by omega), hexValue?_hexDigit _ (by omega)]
  simp only [Option.pure_def, Option.bind_eq_bind, Option.bind_some, Option.some.injEq]
  omega

/-- A character that is not escaped is read as it is. -/
theorem readBody_cons {c : Char} (hquote : c ≠ '"') (hslash : c ≠ '\\') (hcontrol : ¬ c.toNat < 32)
    (rest : List Char) : readBody (c :: rest) = consing c (readBody rest) := by
  rw [readBody]
  · rw [if_neg hcontrol]
  · exact hquote
  · exact fun _ _ _ _ _ h => absurd h hslash
  · exact fun _ h => absurd h hslash
  · exact fun h => absurd h hslash
  · exact fun _ _ h => absurd h hslash

/-- A character as it stands in a string is read as that character, whatever follows. -/
theorem readBody_escapeChar_append (c : Char) (rest : List Char) :
    readBody (escapeChar c ++ rest) = consing c (readBody rest) := by
  have hescaped {x : Char} (hx : x ≠ 'u') (h : escaped? x = some c) :
      readBody ('\\' :: x :: rest) = consing c (readBody rest) := by
    rw [readBody]
    · rw [h]
    · exact fun _ _ _ _ _ h => absurd h hx
    · exact fun h => absurd h hx
  unfold escapeChar
  by_cases hquote : c = '"'
  · subst hquote
    exact hescaped (by decide) rfl
  rw [if_neg hquote]
  by_cases hslash : c = '\\'
  · subst hslash
    exact hescaped (by decide) rfl
  rw [if_neg hslash]
  split
  · subst c
    exact hescaped (by decide) rfl
  split
  · subst c
    exact hescaped (by decide) rfl
  split
  · subst c
    exact hescaped (by decide) rfl
  split
  · subst c
    exact hescaped (by decide) rfl
  split
  · subst c
    exact hescaped (by decide) rfl
  split
  · rename_i hcontrol
    show readBody ('\\' :: 'u' :: '0' :: '0' :: _ :: _ :: rest) = _
    have hlow : isLowUnit c.toNat = false := by
      rw [isLowUnit, decide_eq_false (by omega), Bool.false_and]
    have hhigh : isHighUnit c.toNat = false := by
      rw [isHighUnit, decide_eq_false (by omega), Bool.false_and]
    rw [readBody]
    simp only [unit?_hexDigit hcontrol, hlow, hhigh, Char.ofNat_toNat, Bool.false_eq_true,
      if_false]
  · rename_i hcontrol
    exact readBody_cons hquote hslash hcontrol rest

/-- **A string** is read back from what is written for it, whatever follows. -/
theorem readBody_flatMap_escapeChar (text rest : List Char) :
    readBody (text.flatMap escapeChar ++ '"' :: rest) = .ok (text, rest) := by
  induction text with
  | nil => rw [List.flatMap_nil, List.nil_append, readBody]
  | cons c text ih =>
    rw [List.flatMap_cons, List.append_assoc, readBody_escapeChar_append, ih]
    rfl

end SchemaFilter.Json
