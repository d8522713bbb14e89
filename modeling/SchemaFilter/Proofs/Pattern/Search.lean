import Mathlib.Data.List.Infix
import Mathlib.Data.Nat.Bitwise
import SchemaFilter.Pattern.Search

/-!
# What a search finds

A set of places is held as the bits of a number.  Here it is a set: a place is a member if its bit
is set, and each operation on numbers says which places become members.

* `Places` as sets: `Places.mem_first`, `Places.mem_inter`, `Places.succ_mem_next`;
* `mem_beforeMembers` — the places before the characters in a set;
* `mem_step`, `mem_stepPast` — where one character leads, and where a text leads;
* `Expr.occursIn_literal` — a **text** occurs where it is a contiguous part.
-/

namespace SchemaFilter

/-- The set of one character has no other member. -/
@[simp] theorem CharSet.contains_single {c d : Char} :
    (single c).contains d = true ↔ d = c := by
  rw [← Char.toNat_inj]
  simp [contains, containsCode, single, range, CodeRange.contains]
  omega

namespace Pattern

/-! ### Places as sets -/

namespace Places

/-- A place is in a set if its bit is set. -/
instance : Membership Nat Places where
  mem places i := places.bits.testBit i = true

theorem mem_def {places : Places} {i : Nat} : i ∈ places ↔ places.bits.testBit i = true := Iff.rfl

@[simp] theorem notMem_none (i : Nat) : i ∉ none := by
  simp [mem_def, none]

@[simp] theorem mem_first {count i : Nat} : i ∈ first count ↔ i < count := by
  rw [mem_def, first, Nat.one_shiftLeft, Nat.testBit_two_pow_sub_one, decide_eq_true_iff]

@[simp] theorem mem_inter {a b : Places} {i : Nat} : i ∈ a.inter b ↔ i ∈ a ∧ i ∈ b := by
  rw [mem_def, inter, Nat.testBit_and, Bool.and_eq_true]
  rfl

@[simp] theorem zero_notMem_next (a : Places) : 0 ∉ a.next := by
  simp [mem_def, next]

@[simp] theorem succ_mem_next {a : Places} {i : Nat} : i + 1 ∈ a.next ↔ i ∈ a := by
  simp [mem_def, next, Nat.testBit_shiftLeft]

@[simp] theorem zero_mem_cons {here : Bool} {later : Places} :
    0 ∈ cons here later ↔ here = true := by
  cases here <;> simp [mem_def, cons, Nat.testBit_zero]

@[simp] theorem succ_mem_cons {here : Bool} {later : Places} {i : Nat} :
    i + 1 ∈ cons here later ↔ i ∈ later := by
  have hhalf : (2 * later.bits + here.toNat) / 2 = later.bits := by
    cases here
    · exact Nat.mul_div_cancel_left later.bits (by decide)
    · exact Nat.mul_add_div (by decide) later.bits 1
  rw [mem_def, cons, Nat.testBit_succ, hhalf]
  rfl

/-- A number without bits is zero. -/
theorem isEmpty_eq_false_iff {a : Places} : a.isEmpty = false ↔ ∃ i, i ∈ a := by
  rw [isEmpty, beq_eq_false_iff_ne]
  constructor
  · exact Nat.exists_testBit_of_ne_zero
  · rintro ⟨i, hi⟩ hzero
    rw [mem_def, hzero, Nat.zero_testBit] at hi
    exact Bool.false_ne_true hi

end Places

/-! ### One character -/

theorem mem_beforeMembers {set : CharSet} {text : List Char} {i : Nat} :
    i ∈ beforeMembers set text ↔ ∃ c, text[i]? = some c ∧ set.contains c = true := by
  induction text generalizing i with
  | nil => simp [beforeMembers]
  | cons c cs ih =>
    cases i with
    | zero => simp [beforeMembers]
    | succ i => simp [beforeMembers, ih]

/-- No match ends before the first character that it takes. -/
theorem zero_notMem_step {text : List Char} {set : CharSet} {places : Places} :
    0 ∉ step text set places :=
  Places.zero_notMem_next _

theorem succ_mem_step {text : List Char} {set : CharSet} {places : Places} {i : Nat} :
    i + 1 ∈ step text set places ↔ i ∈ places ∧ ∃ c, text[i]? = some c ∧ set.contains c = true := by
  rw [step, Places.succ_mem_next, Places.mem_inter, mem_beforeMembers]

/-! ### A text -/

/-- Behind a place stands a text if its first character stands there, and the others behind it. -/
private theorem cons_isPrefix_drop {c : Char} {cs text : List Char} {i : Nat} :
    c :: cs <+: text.drop i ↔ text[i]? = some c ∧ cs <+: text.drop (i + 1) := by
  rw [← List.head?_drop, ← List.tail_drop]
  cases text.drop i with
  | nil => simp
  | cons d ds => simp [List.cons_prefix_cons, eq_comm]

/-- A text leads from the places that it stands behind to the places behind it. -/
theorem mem_stepPast {text word : List Char} {places : Places} {j : Nat} :
    j ∈ stepPast text word places ↔
      ∃ i ∈ places, j = i + word.length ∧ word <+: text.drop i := by
  induction word generalizing places with
  | nil => simp [stepPast]
  | cons c cs ih =>
    show j ∈ stepPast text cs (step text (.single c) places) ↔ _
    rw [ih]
    constructor
    · rintro ⟨i, hi, rfl, hcs⟩
      -- A place behind the first character is the successor of one that the text stands behind.
      cases i with
      | zero => exact absurd hi zero_notMem_step
      | succ i =>
        obtain ⟨hplace, d, hd, hsingle⟩ := succ_mem_step.mp hi
        obtain rfl := CharSet.contains_single.mp hsingle
        exact ⟨i, hplace, by rw [List.length_cons]; omega, cons_isPrefix_drop.mpr ⟨hd, hcs⟩⟩
    · rintro ⟨i, hi, rfl, hword⟩
      obtain ⟨hc, hcs⟩ := cons_isPrefix_drop.mp hword
      exact ⟨i + 1, succ_mem_step.mpr ⟨hi, c, hc, CharSet.contains_single.mpr rfl⟩,
        by rw [List.length_cons]; omega, hcs⟩

/-- A text **occurs** where it is a contiguous part. -/
theorem Expr.occursIn_literal {word text : List Char} :
    (literal word).occursIn text = true ↔ word <:+: text := by
  rw [occursIn, Bool.not_eq_true', Places.isEmpty_eq_false_iff, List.infix_iff_prefix_suffix]
  constructor
  · rintro ⟨j, hj⟩
    obtain ⟨i, -, -, hword⟩ := mem_stepPast.mp hj
    exact ⟨text.drop i, hword, List.drop_suffix i text⟩
  · rintro ⟨rest, hword, hrest⟩
    -- The search starts at every place, and so also where this part begins.
    have hi : text.length - rest.length ∈ Places.first (text.length + 1) :=
      Places.mem_first.mpr (Nat.lt_succ_of_le (Nat.sub_le _ _))
    rw [List.suffix_iff_eq_drop.mp hrest] at hword
    exact ⟨_, mem_stepPast.mpr ⟨_, hi, rfl, hword⟩⟩

end Pattern

end SchemaFilter
