import Mathlib.Data.List.DropRight
import SchemaFilter.Text.Blank

/-!
# What trimming does

`trim` takes the blanks off both ends of a text and nothing else.

* `trim_eq_self_iff` — a text is trimmed exactly if neither of its ends is blank;
* `trim_eq_nil_iff` — nothing is left exactly of the texts that are blank throughout;
* `exists_eq_append_trim` — a text is its trimmed text with blanks on both sides;
* `trim_trim` — trimming twice is trimming once;
* `trim_append_of_blank` — blanks around a text make no difference.
-/

namespace SchemaFilter

theorem trimRight_eq_rdropWhile (text : List Char) :
    trimRight text = text.rdropWhile isBlank := rfl

theorem allBlank_eq_true_iff {text : List Char} :
    allBlank text = true ↔ ∀ c ∈ text, isBlank c = true := by
  rw [allBlank, List.all_eq_true]

theorem allBlank_eq_false_iff {text : List Char} :
    allBlank text = false ↔ ∃ c ∈ text, isBlank c = false := by
  simp [allBlank]

/-! ### Texts with shown ends -/

/-- Neither end of the text is blank. -/
def EndsShown (text : List Char) : Prop :=
  (∀ c ∈ text.head?, isBlank c = false) ∧ ∀ c ∈ text.getLast?, isBlank c = false

/-- The blanks on the right can be taken off a text without changing a left end that is shown. -/
private theorem head_trimRight {text : List Char} (hhead : ∀ c ∈ text.head?, isBlank c = false) :
    ∀ c ∈ (trimRight text).head?, isBlank c = false := by
  intro c hc
  obtain ⟨behind, hbehind⟩ := List.rdropWhile_prefix isBlank text
  apply hhead c
  rw [← hbehind, List.head?_append, ← trimRight_eq_rdropWhile, Option.mem_def.mp hc]
  rfl

/-- What is left after trimming has shown ends. -/
theorem endsShown_trim (text : List Char) : EndsShown (trim text) := by
  constructor
  · apply head_trimRight
    intro c hc
    have hleft := List.head?_dropWhile_not isBlank text
    rw [show text.dropWhile isBlank = trimLeft text from rfl, Option.mem_def.mp hc] at hleft
    exact hleft
  · intro c hc
    -- There is a last character, and so something is left.
    have hne : (trimLeft text).rdropWhile isBlank ≠ [] := by
      intro h
      rw [trim, trimRight_eq_rdropWhile, h] at hc
      exact absurd hc (by simp)
    have hlast := List.rdropWhile_last_not isBlank (trimLeft text) hne
    rw [trim, trimRight_eq_rdropWhile, List.getLast?_eq_getLast_of_ne_nil hne] at hc
    obtain rfl := Option.some.inj hc
    simpa using hlast

/-- A text is trimmed exactly if neither of its ends is blank. -/
theorem trim_eq_self_iff {text : List Char} : trim text = text ↔ EndsShown text := by
  constructor
  · intro h
    rw [← h]
    exact endsShown_trim text
  · rintro ⟨hhead, hlast⟩
    have hleft : trimLeft text = text := by
      cases text with
      | nil => rfl
      | cons c cs => exact List.dropWhile_cons_of_neg (by simp [hhead c rfl])
    rw [trim, hleft, trimRight_eq_rdropWhile, List.rdropWhile_eq_self_iff]
    intro hne
    simp [hlast _ (List.getLast?_eq_getLast_of_ne_nil hne)]

/-- Trimming twice is trimming once. -/
@[simp] theorem trim_trim (text : List Char) : trim (trim text) = trim text :=
  trim_eq_self_iff.mpr (endsShown_trim text)

/-! ### What is taken off -/

/-- A text is its trimmed text with blanks on both sides. -/
theorem exists_eq_append_trim (text : List Char) :
    ∃ left right, text = left ++ trim text ++ right ∧
      allBlank left = true ∧ allBlank right = true := by
  refine ⟨text.takeWhile isBlank, (trimLeft text).rtakeWhile isBlank, ?_, ?_, ?_⟩
  · rw [trim, trimRight_eq_rdropWhile, List.append_assoc, List.rdropWhile_append_rtakeWhile]
    exact List.takeWhile_append_dropWhile.symm
  · exact List.all_takeWhile
  · rw [allBlank_eq_true_iff]
    exact fun c hc => List.mem_rtakeWhile_imp hc

/-- What is left after trimming stands in the text. -/
theorem mem_of_mem_trim {text : List Char} {c : Char} (hc : c ∈ trim text) : c ∈ text := by
  obtain ⟨left, right, htext, -, -⟩ := exists_eq_append_trim text
  rw [htext]
  simp [hc]

/-- Nothing is left exactly of the texts that are blank throughout. -/
theorem trim_eq_nil_iff {text : List Char} : trim text = [] ↔ allBlank text = true := by
  constructor
  · intro h
    obtain ⟨left, right, htext, hleft, hright⟩ := exists_eq_append_trim text
    rw [h, List.append_nil] at htext
    rw [htext, allBlank, List.all_append]
    exact Bool.and_eq_true_iff.mpr ⟨hleft, hright⟩
  · intro h
    have hnil : trimLeft text = [] := List.dropWhile_eq_nil_iff.mpr (allBlank_eq_true_iff.mp h)
    rw [trim, hnil]
    rfl

/-- A text holds something else than blanks exactly if its trimmed text does. -/
@[simp] theorem allBlank_trim (text : List Char) : allBlank (trim text) = allBlank text := by
  rw [Bool.eq_iff_iff, ← trim_eq_nil_iff, trim_trim, trim_eq_nil_iff]

/-- A blank in front of a text is taken off with the others. -/
theorem trim_cons_of_blank {c : Char} (hc : isBlank c = true) (text : List Char) :
    trim (c :: text) = trim text := by
  rw [trim, trimLeft, List.dropWhile_cons_of_pos hc, trim, trimLeft]

/-- Blanks around a text are taken off with those of the text. -/
theorem trim_append_of_blank {left right : List Char} (hleft : allBlank left = true)
    (hright : allBlank right = true) (text : List Char) :
    trim (left ++ text ++ right) = trim text := by
  rw [allBlank_eq_true_iff] at hleft
  have htail : trimLeft (left ++ text ++ right) = trimLeft (text ++ right) := by
    rw [List.append_assoc, trimLeft, List.dropWhile_append_of_pos hleft, trimLeft]
  have hreverse : ∀ c ∈ right.reverse, isBlank c = true := fun c hc =>
    allBlank_eq_true_iff.mp hright c (List.mem_reverse.mp hc)
  rw [trim, htail, trimLeft, List.dropWhile_append]
  split
  · -- The text is blank throughout, and so nothing is left on either side.
    rename_i hempty
    have hnil : trimLeft right = [] :=
      List.dropWhile_eq_nil_iff.mpr (allBlank_eq_true_iff.mp hright)
    rw [trim, show trimLeft text = [] from List.isEmpty_iff.mp hempty]
    exact congrArg trimRight hnil
  · show trimRight (trimLeft text ++ right) = trimRight (trimLeft text)
    rw [trimRight, List.reverse_append, List.dropWhile_append_of_pos hreverse, ← trimRight]

/-- Trimming a trimmed text changes nothing. -/
@[simp] theorem trimmed_trimmed (text : String) : trimmed (trimmed text) = trimmed text := by
  rw [trimmed, trimmed, String.toList_ofList, trim_trim]

theorem trimmed_eq_self_iff {text : String} :
    trimmed text = text ↔ trim text.toList = text.toList := by
  rw [trimmed, ← String.toList_inj, String.toList_ofList]

end SchemaFilter
