import Mathlib.Algebra.Group.Nat.Defs
import SchemaFilter.Proofs.Text.Pieces
import SchemaFilter.Proofs.Text.Utf8

/-!
# Reading what is not UTF-8

Of bytes that are not UTF-8, what can be read is read.  Where a character is begun and not finished,
the bytes that begin it are read as one replacement character, as many as there are; and so is each
byte that begins no character.

* `Utf8.Begins`, `Utf8.IsUnfinished` — bytes that a character begins with;
* `Utf8.Reads` — how bytes are read, whatever they are;
* `Utf8.Inside` — where the machine stands when a character is begun;
* `Utf8.reads_iff` — **what is read** of any bytes is what `decode` gives;
* `decode_append_cons` — a byte of ASCII is never read together with what stands before it;
* `mem_of_mem_decode` — a character of ASCII is read only where its byte stands;
* `splitOn_decode` — cutting bytes and reading the pieces is reading the bytes and cutting the text.
-/

namespace SchemaFilter

namespace Utf8

/-! ### How bytes are read -/

/-- The bytes of some character begin with these. -/
def Begins (front : Bytes) : Prop :=
  ∃ c, front <+: String.utf8EncodeChar c

/-- The bytes, of which there are some, begin a character, and there is more to it. -/
def IsUnfinished (front : Bytes) : Prop :=
  front ≠ [] ∧ ∃ c, front <+: String.utf8EncodeChar c ∧ front ≠ String.utf8EncodeChar c

/-- How bytes are read, whatever they are.  A character that is begun must not be given up as long
    as the next byte continues it. -/
inductive Reads : Bytes → List Char → Prop
  | nil : Reads [] []
  | char (c : Char) {bytes : Bytes} {text : List Char} (h : Reads bytes text) :
      Reads (String.utf8EncodeChar c ++ bytes) (c :: text)
  | unfinished {front bytes : Bytes} {text : List Char} (hfront : IsUnfinished front)
      (hend : ∀ b ∈ bytes.head?, ¬ Begins (front ++ [b])) (h : Reads bytes text) :
      Reads (front ++ bytes) (replacement :: text)
  | stray {b : UInt8} {bytes : Bytes} {text : List Char} (hb : ¬ Begins [b])
      (h : Reads bytes text) : Reads (b :: bytes) (replacement :: text)

theorem IsUnfinished.begins {front : Bytes} (h : IsUnfinished front) : Begins front := by
  obtain ⟨-, c, hc, -⟩ := h
  exact ⟨c, hc⟩

/-! ### The bytes of a character by its number -/

/-- The bytes of a character behind its first ones, by its number. -/
def tail : (due : Nat) → (n : Nat) → Bytes
  | 0, n => [UInt8.ofNat (n % 64 + 128)]
  | due + 1, n => UInt8.ofNat (n / 64 ^ (due + 1) % 64 + 128) :: tail due n

theorem val_ofNat {n : Nat} (h : n.isValidChar) : (Char.ofNat n).val.toNat = n := by
  rw [Char.ofNat, dif_pos h]
  rfl

theorem utf8EncodeChar_one {n : Nat} (h : n < 128) :
    String.utf8EncodeChar (Char.ofNat n) = [UInt8.ofNat n] := by
  rw [String.utf8EncodeChar, val_ofNat (.inl (by omega)), if_pos (by omega)]

/-- A byte of ASCII is the bytes of its character. -/
theorem utf8EncodeChar_of_ascii {b : UInt8} (hb : b.toNat < 128) :
    String.utf8EncodeChar (Char.ofNat b.toNat) = [b] := by
  rw [utf8EncodeChar_one hb, UInt8.ofNat_toNat]

theorem utf8EncodeChar_two {n : Nat} (hlow : 128 ≤ n) (hhigh : n < 2048) :
    n.isValidChar ∧
      String.utf8EncodeChar (Char.ofNat n) = UInt8.ofNat (n / 64 + 192) :: tail 0 n := by
  have hvalid : n.isValidChar := .inl (by omega)
  refine ⟨hvalid, ?_⟩
  rw [String.utf8EncodeChar, val_ofNat hvalid, if_neg (by omega), if_pos (by omega),
    show n / 64 % 32 = n / 64 by omega]
  rfl

theorem utf8EncodeChar_three {n : Nat} (hlow : 2048 ≤ n) (hhigh : n < 65536)
    (hsurrogate : n < 0xD800 ∨ 0xDFFF < n) :
    n.isValidChar ∧
      String.utf8EncodeChar (Char.ofNat n) = UInt8.ofNat (n / 4096 + 224) :: tail 1 n := by
  have hvalid : n.isValidChar := hsurrogate.imp_right fun h => ⟨h, by omega⟩
  refine ⟨hvalid, ?_⟩
  rw [String.utf8EncodeChar, val_ofNat hvalid, if_neg (by omega), if_neg (by omega),
    if_pos (by omega), show n / 4096 % 16 = n / 4096 by omega]
  rfl

theorem utf8EncodeChar_four {n : Nat} (hlow : 65536 ≤ n) (hhigh : n < 0x110000) :
    n.isValidChar ∧
      String.utf8EncodeChar (Char.ofNat n) = UInt8.ofNat (n / 262144 + 240) :: tail 2 n := by
  have hvalid : n.isValidChar := .inr ⟨by omega, hhigh⟩
  refine ⟨hvalid, ?_⟩
  rw [String.utf8EncodeChar, val_ofNat hvalid, if_neg (by omega), if_neg (by omega),
    if_neg (by omega), show n / 262144 % 8 = n / 262144 by omega]
  rfl

/-! ### A character that is begun -/

/-- Behind these bytes, the machine has begun a character.  All the numbers that it can come to from
    there are numbers of characters, and those have the bytes that it waits for. -/
structure Inside (front : Bytes) (due : Nat) (low high : UInt8) (value : Nat) : Prop where
  shown : front ≠ []
  run_eq : ∀ bytes, run .start (front ++ bytes) = run (.inside due low high value) bytes
  low_ge : 128 ≤ low.toNat
  low_le : low.toNat ≤ high.toNat
  high_lt : high.toNat < 192
  encode_eq : ∀ n, n / 64 ^ (due + 1) = value → low.toNat ≤ n / 64 ^ due % 64 + 128 →
    n / 64 ^ due % 64 + 128 ≤ high.toNat →
    n.isValidChar ∧ String.utf8EncodeChar (Char.ofNat n) = front ++ tail due n

/-- What the machine does with a first byte. -/
private theorem run_eq_of_first {b : UInt8} {state : State} (h : first b = (state, []))
    (bytes : Bytes) : run .start ([b] ++ bytes) = run state bytes := by
  rw [List.singleton_append, run_cons, step, h]
  rfl

private theorem inside_two {a : Nat} (hlow : 2 ≤ a) (hhigh : a < 32) :
    Inside [UInt8.ofNat (a + 192)] 0 0x80 0xBF a where
  shown := List.cons_ne_nil _ _
  run_eq := run_eq_of_first (first_of_two a hhigh hlow)
  low_ge := Nat.le_of_ble_eq_true rfl
  low_le := Nat.le_of_ble_eq_true rfl
  high_lt := Nat.le_of_ble_eq_true rfl
  encode_eq n hvalue _ _ := by
    rw [Nat.zero_add, Nat.pow_one] at hvalue
    rw [← hvalue]
    exact utf8EncodeChar_two (by omega) (by omega)

/-- Where the second byte is limited below or above, but not both, there are bytes left for it. -/
private theorem limits_second (a last : Nat) (low high : UInt8) (hlast : 0 < last)
    (hlow : 128 ≤ low.toNat ∧ low.toNat < 192) (hhigh : 128 ≤ high.toNat ∧ high.toNat < 192) :
    128 ≤ (if a = 0 then low else 0x80).toNat ∧
      (if a = 0 then low else 0x80).toNat ≤ (if a = last then high else 0xBF).toNat ∧
      (if a = last then high else 0xBF).toNat < 192 := by
  have hleast : (0x80 : UInt8).toNat = 128 := rfl
  have hgreatest : (0xBF : UInt8).toNat = 191 := rfl
  split <;> split <;> omega

private theorem inside_three {a : Nat} (ha : a < 16) :
    Inside [UInt8.ofNat (a + 224)] 1 (if a = 0 then 0xA0 else 0x80)
      (if a = 13 then 0x9F else 0xBF) a := by
  obtain ⟨hge, hle, hlt⟩ :=
    limits_second a 13 0xA0 0x9F (by decide) (by decide) (by decide)
  refine ⟨List.cons_ne_nil _ _, run_eq_of_first (first_of_three a ha), hge, hle, hlt, ?_⟩
  intro n hvalue hlow hhigh
  have hzero (h : a = 0) : 160 ≤ n / 64 % 64 + 128 := by
    rw [if_pos h] at hlow
    exact hlow
  have hthirteen (h : a = 13) : n / 64 % 64 + 128 ≤ 159 := by
    rw [if_pos h] at hhigh
    exact hhigh
  have hvalue : n / 4096 = a := hvalue
  rw [← hvalue]
  exact utf8EncodeChar_three (by omega) (by omega) (by omega)

private theorem inside_four {a : Nat} (ha : a < 5) :
    Inside [UInt8.ofNat (a + 240)] 2 (if a = 0 then 0x90 else 0x80)
      (if a = 4 then 0x8F else 0xBF) a := by
  obtain ⟨hge, hle, hlt⟩ :=
    limits_second a 4 0x90 0x8F (by decide) (by decide) (by decide)
  refine ⟨List.cons_ne_nil _ _, run_eq_of_first (first_of_four a ha), hge, hle, hlt, ?_⟩
  intro n hvalue hlow hhigh
  have hzero (h : a = 0) : 144 ≤ n / 4096 % 64 + 128 := by
    rw [if_pos h] at hlow
    exact hlow
  have hfour (h : a = 4) : n / 4096 % 64 + 128 ≤ 143 := by
    rw [if_pos h] at hhigh
    exact hhigh
  have hvalue : n / 262144 = a := hvalue
  rw [← hvalue]
  exact utf8EncodeChar_four (by omega) (by omega)

private theorem first_of_tail : ∀ n < 66,
    first (UInt8.ofNat (n + 128)) = (.start, [replacement]) := by
  decide

private theorem first_of_great : ∀ n < 11,
    first (UInt8.ofNat (n + 245)) = (.start, [replacement]) := by
  decide

/-- A byte is a character by itself, or it begins none, or the machine is inside one behind it. -/
theorem first_cases (b : UInt8) :
    (b.toNat < 128 ∧ first b = (.start, [Char.ofNat b.toNat])) ∨
      first b = (.start, [replacement]) ∨
      ∃ due low high value, Inside [b] due low high value := by
  obtain ⟨n, hn⟩ : ∃ n, n = b.toNat := ⟨_, rfl⟩
  have hb : b = UInt8.ofNat n := by rw [hn, UInt8.ofNat_toNat]
  have hlt : n < 256 := hn ▸ b.toNat_lt
  rw [← hn, hb]
  by_cases h₁ : n < 128
  · exact .inl ⟨h₁, first_of_one h₁⟩
  right
  by_cases h₂ : n < 194
  · obtain ⟨a, rfl⟩ := Nat.exists_eq_add_of_le' (show 128 ≤ n by omega)
    exact .inl (first_of_tail a (by omega))
  by_cases h₃ : n < 224
  · obtain ⟨a, rfl⟩ := Nat.exists_eq_add_of_le' (show 192 ≤ n by omega)
    exact .inr ⟨_, _, _, _, inside_two (by omega) (by omega)⟩
  by_cases h₄ : n < 240
  · obtain ⟨a, rfl⟩ := Nat.exists_eq_add_of_le' (show 224 ≤ n by omega)
    exact .inr ⟨_, _, _, _, inside_three (by omega)⟩
  by_cases h₅ : n < 245
  · obtain ⟨a, rfl⟩ := Nat.exists_eq_add_of_le' (show 240 ≤ n by omega)
    exact .inr ⟨_, _, _, _, inside_four (by omega)⟩
  · obtain ⟨a, rfl⟩ := Nat.exists_eq_add_of_le' (show 245 ≤ n by omega)
    exact .inl (first_of_great a (by omega))

/-! ### How a character goes on -/

section Inside

variable {front : Bytes} {due value : Nat} {low high b : UInt8}

/-- A number that the next byte can lead to: the byte gives six bits of it, and the character with
    that number has the byte. -/
theorem Inside.encode_of_digit (h : Inside front due low high value) (hlow : low ≤ b)
    (hhigh : b ≤ high) {n : Nat} (hn : n / 64 ^ due = value * 64 + (b.toNat - 0x80)) :
    n / 64 ^ due % 64 + 128 = b.toNat ∧
      n.isValidChar ∧ String.utf8EncodeChar (Char.ofNat n) = front ++ tail due n := by
  have hle : low.toNat ≤ b.toNat := UInt8.le_iff_toNat_le.mp hlow
  have hge : b.toNat ≤ high.toNat := UInt8.le_iff_toNat_le.mp hhigh
  have hlimits := And.intro h.low_ge h.high_lt
  have hvalue : n / 64 ^ (due + 1) = value := by
    rw [Nat.pow_succ, ← Nat.div_div_eq_div_mul, hn]
    omega
  have hdigit : n / 64 ^ due % 64 + 128 = b.toNat := by
    rw [hn]
    omega
  exact ⟨hdigit, h.encode_eq n hvalue (hdigit ▸ hle) (hdigit ▸ hge)⟩

/-- A byte in the range continues the character. -/
theorem Inside.more (h : Inside front (due + 1) low high value) (hlow : low ≤ b)
    (hhigh : b ≤ high) :
    Inside (front ++ [b]) due 0x80 0xBF (value * 64 + (b.toNat - 0x80)) where
  shown := by simp
  run_eq bytes := by
    rw [List.append_assoc, List.singleton_append, h.run_eq, run_cons, step, if_pos ⟨hlow, hhigh⟩]
    rfl
  low_ge := Nat.le_of_ble_eq_true rfl
  low_le := Nat.le_of_ble_eq_true rfl
  high_lt := Nat.le_of_ble_eq_true rfl
  encode_eq n hvalue _ _ := by
    obtain ⟨hdigit, hvalid, hencode⟩ := h.encode_of_digit hlow hhigh hvalue
    refine ⟨hvalid, ?_⟩
    rw [hencode, tail, hdigit, UInt8.ofNat_toNat, List.append_assoc, List.singleton_append]

/-- The last byte finishes the character. -/
theorem Inside.last (h : Inside front 0 low high value) (hlow : low ≤ b) (hhigh : b ≤ high) :
    String.utf8EncodeChar (Char.ofNat (value * 64 + (b.toNat - 0x80))) = front ++ [b] := by
  have hn (n : Nat) : n / 64 ^ 0 = n := Nat.div_one n
  obtain ⟨hdigit, -, hencode⟩ := h.encode_of_digit hlow hhigh (hn _)
  rw [hn] at hdigit
  rw [hencode, tail, hdigit, UInt8.ofNat_toNat]

/-- Inside a character there is more to come, which ends it. -/
theorem Inside.exists_char (h : Inside front due low high value) :
    ∃ c rest, rest ≠ [] ∧ String.utf8EncodeChar c = front ++ rest := by
  -- Any byte in the range leads there; the lowest is one.
  induction due generalizing front low high value with
  | zero =>
    have hlast := h.last (UInt8.le_refl low) (UInt8.le_iff_toNat_le.mpr h.low_le)
    exact ⟨_, [low], by simp, hlast⟩
  | succ due ih =>
    have hmore := h.more (UInt8.le_refl low) (UInt8.le_iff_toNat_le.mpr h.low_le)
    obtain ⟨c, rest, -, hc⟩ := ih hmore
    exact ⟨c, low :: rest, by simp, by rw [hc, List.append_assoc, List.singleton_append]⟩

/-- Every byte in the range can follow. -/
theorem Inside.begins (h : Inside front due low high value) (hlow : low ≤ b) (hhigh : b ≤ high) :
    Begins (front ++ [b]) := by
  cases due with
  | zero => exact ⟨_, [], (List.append_nil _).trans (h.last hlow hhigh).symm⟩
  | succ due =>
    obtain ⟨c, rest, -, hc⟩ := (h.more hlow hhigh).exists_char
    exact ⟨c, hc ▸ List.prefix_append _ rest⟩

end Inside

/-! ### What the machine gives for the bytes of characters -/

/-- Out of the range, a character is given up, and what follows is read as if it came first. -/
theorem run_inside_of_not_range {due value : Nat} {low high b : UInt8}
    (hb : ¬ (low ≤ b ∧ b ≤ high)) (bytes : Bytes) :
    run (.inside due low high value) (b :: bytes) = replacement :: run .start (b :: bytes) := by
  rw [run_cons, step, if_neg hb]
  rfl

/-- A character that is begun is told of in any case. -/
theorem run_inside_ne_nil (due : Nat) (low high : UInt8) (value : Nat) (bytes : Bytes) :
    run (.inside due low high value) bytes ≠ [] := by
  induction bytes generalizing due low high value with
  | nil => simp [run, finish]
  | cons b bytes ih =>
    rw [run_cons, step]
    split
    · cases due with
      | zero => simp
      | succ due => exact ih due 0x80 0xBF _
    · simp

/-- Nothing is read of no bytes only. -/
theorem eq_nil_of_run_start {bytes : Bytes} (h : run .start bytes = []) : bytes = [] := by
  cases bytes with
  | nil => rfl
  | cons b rest =>
    exfalso
    rcases first_cases b with ⟨-, hfirst⟩ | hfirst | ⟨due, low, high, value, hinside⟩
    · rw [run_cons, step, hfirst] at h
      exact absurd h (by simp)
    · rw [run_cons, step, hfirst] at h
      exact absurd h (by simp)
    · rw [← List.singleton_append, hinside.run_eq] at h
      exact run_inside_ne_nil due low high value rest h

theorem run_start_utf8EncodeChar (c : Char) : run .start (String.utf8EncodeChar c) = [c] := by
  have h := run_utf8EncodeChar [] c
  rwa [List.append_nil] at h

/-- The bytes of a character are not the beginning of those of another. -/
theorem eq_nil_of_utf8EncodeChar_append {c c' : Char} {rest : Bytes}
    (h : String.utf8EncodeChar c = String.utf8EncodeChar c' ++ rest) : rest = [] := by
  have hrun := run_start_utf8EncodeChar c
  rw [h, run_utf8EncodeChar, List.cons.injEq] at hrun
  exact eq_nil_of_run_start hrun.2

/-- A byte that does not begin a character and is not one is a byte of none. -/
theorem not_begins_of_first {b : UInt8} (h : first b = (.start, [replacement])) :
    ¬ Begins [b] := by
  rintro ⟨c, rest, hc⟩
  have hrun := run_start_utf8EncodeChar c
  rw [← hc, List.singleton_append, run_cons, step, h] at hrun
  obtain ⟨rfl, hrest⟩ := List.cons.inj hrun
  -- The character would have to be the replacement character, which has three bytes.
  obtain rfl : rest = [] := eq_nil_of_run_start hrest
  have hlength : 1 = (String.utf8EncodeChar replacement).length := congrArg List.length hc
  exact absurd hlength (by decide)

section Inside

variable {front : Bytes} {due value : Nat} {low high b : UInt8}

/-- No byte out of the range can follow. -/
theorem Inside.not_begins (h : Inside front due low high value) (hb : ¬ (low ≤ b ∧ b ≤ high)) :
    ¬ Begins (front ++ [b]) := by
  rintro ⟨c, rest, hc⟩
  have hrun := run_start_utf8EncodeChar c
  rw [← hc, List.append_assoc, List.singleton_append, h.run_eq, run_inside_of_not_range hb,
    List.cons.injEq] at hrun
  -- What is given up is told of, and then there is more text than the one character.
  exact absurd (eq_nil_of_run_start hrun.2) (List.cons_ne_nil b rest)

theorem Inside.isUnfinished (h : Inside front due low high value) : IsUnfinished front := by
  obtain ⟨c, rest, hrest, hc⟩ := h.exists_char
  refine ⟨h.shown, c, hc ▸ List.prefix_append front rest, fun heq => hrest ?_⟩
  rw [hc] at heq
  simpa using heq.symm

end Inside

/-! ### What is read -/

/-- Whatever the machine has begun, it reads what follows as bytes are read. -/
theorem reads_run_inside (bytes : Bytes) :
    Reads bytes (run .start bytes) ∧
      ∀ front due low high value, Inside front due low high value →
        Reads (front ++ bytes) (run (.inside due low high value) bytes) := by
  -- Both go together: where a character is given up, what follows is read from the start.
  induction bytes with
  | nil =>
    refine ⟨.nil, fun front due low high value h => ?_⟩
    exact .unfinished h.isUnfinished (by simp) .nil
  | cons b bytes ih =>
    obtain ⟨hstart, hinside⟩ := ih
    have hcons : Reads (b :: bytes) (run .start (b :: bytes)) := by
      rcases first_cases b with ⟨hascii, hfirst⟩ | hfirst | ⟨due, low, high, value, h⟩
      · rw [run_cons, step, hfirst]
        rw [← List.singleton_append, ← utf8EncodeChar_of_ascii hascii]
        exact .char _ hstart
      · rw [run_cons, step, hfirst]
        exact .stray (not_begins_of_first hfirst) hstart
      · rw [← List.singleton_append, h.run_eq]
        exact hinside _ _ _ _ _ h
    refine ⟨hcons, fun front due low high value h => ?_⟩
    by_cases hb : low ≤ b ∧ b ≤ high
    · rw [← List.singleton_append, ← List.append_assoc, List.singleton_append, run_cons, step,
        if_pos hb]
      cases due with
      | zero =>
        rw [← h.last hb.1 hb.2]
        exact .char _ hstart
      | succ due => exact hinside _ _ _ _ _ (h.more hb.1 hb.2)
    · rw [run_inside_of_not_range hb]
      refine .unfinished h.isUnfinished (fun b' hb' => ?_) hcons
      obtain rfl : b = b' := by simpa using hb'
      exact h.not_begins hb

/-- As long as a character is not finished, the machine stays inside it. -/
theorem Inside.exists_inside {front more rest : Bytes} {due value : Nat} {low high : UInt8}
    {c : Char} (h : Inside front due low high value) (hrest : rest ≠ [])
    (hc : String.utf8EncodeChar c = front ++ more ++ rest) :
    ∃ due low high value, Inside (front ++ more) due low high value := by
  induction more generalizing front due low high value with
  | nil => exact ⟨due, low, high, value, by rwa [List.append_nil]⟩
  | cons b more ih =>
    have hsplit : front ++ b :: more = front ++ [b] ++ more := by simp
    rw [hsplit] at hc ⊢
    by_cases hb : low ≤ b ∧ b ≤ high
    · cases due with
      | zero =>
        -- The character would be finished here, and nothing would be left of it.
        rw [List.append_assoc, ← h.last hb.1 hb.2] at hc
        exact absurd (List.append_eq_nil_iff.mp (eq_nil_of_utf8EncodeChar_append hc)).2 hrest
      | succ due => exact ih (h.more hb.1 hb.2) hc
    · refine absurd ⟨c, more ++ rest, ?_⟩ (h.not_begins hb)
      rw [hc, List.append_assoc (front ++ [b])]

/-- Behind bytes that begin a character and do not finish it, the machine is inside it. -/
theorem IsUnfinished.exists_inside {front : Bytes} (h : IsUnfinished front) :
    ∃ due low high value, Inside front due low high value := by
  obtain ⟨hne, c, ⟨rest, hc⟩, hwhole⟩ := h
  have hrest : rest ≠ [] := by
    rintro rfl
    exact hwhole (by rw [← hc, List.append_nil])
  obtain ⟨b, more, rfl⟩ := List.exists_cons_of_ne_nil hne
  rcases first_cases b with ⟨hascii, -⟩ | hfirst | ⟨due, low, high, value, hinside⟩
  · rw [List.cons_append, ← List.singleton_append, ← utf8EncodeChar_of_ascii hascii] at hc
    exact absurd (List.append_eq_nil_iff.mp (eq_nil_of_utf8EncodeChar_append hc.symm)).2 hrest
  · exact absurd ⟨c, more ++ rest, hc⟩ (not_begins_of_first hfirst)
  · exact hinside.exists_inside hrest hc.symm

/-- There is one way only to read bytes. -/
theorem eq_decode_of_reads {bytes : Bytes} {text : List Char} (h : Reads bytes text) :
    text = decode bytes := by
  induction h with
  | nil => rfl
  | char c h ih => rw [decode, run_utf8EncodeChar, ← decode, ← ih]
  | @unfinished front bytes text hfront hend h ih =>
    obtain ⟨due, low, high, value, hinside⟩ := hfront.exists_inside
    rw [decode, hinside.run_eq, ih]
    cases bytes with
    | nil => rfl
    | cons b bytes =>
      -- If the next byte were in the range, it would continue what is read as unfinished.
      have hb : ¬ (low ≤ b ∧ b ≤ high) := fun hb => hend b rfl (hinside.begins hb.1 hb.2)
      rw [run_inside_of_not_range hb, ← decode]
  | @stray b bytes text hb h ih =>
    rcases first_cases b with ⟨hascii, -⟩ | hfirst | ⟨due, low, high, value, hinside⟩
    · exact absurd ⟨_, [], (List.append_nil _).trans (utf8EncodeChar_of_ascii hascii).symm⟩ hb
    · rw [decode, run_cons, step, hfirst, ih]
      rfl
    · exact absurd hinside.isUnfinished.begins hb

/-- **What is read.**  Bytes are read as `decode` reads them, and in no other way. -/
theorem reads_iff {bytes : Bytes} {text : List Char} : Reads bytes text ↔ text = decode bytes := by
  constructor
  · exact eq_decode_of_reads
  · rintro rfl
    exact (reads_run_inside bytes).1

/-! ### Bytes of ASCII -/

/-- A byte of ASCII stands in no character but its own. -/
theorem not_begins_append_ascii {front : Bytes} {b : UInt8} (hfront : front ≠ [])
    (hb : b.toNat < 128) : ¬ Begins (front ++ [b]) := by
  rintro ⟨c, rest, hc⟩
  have hmem : b ∈ String.utf8EncodeChar c := by
    rw [← hc]
    simp
  have hchar : c = Char.ofNat b.toNat := by
    rw [← (mem_utf8EncodeChar_iff hb).mp hmem, Char.ofNat_toNat]
  rw [hchar, utf8EncodeChar_of_ascii hb] at hc
  have hlength := congrArg List.length hc
  have hpos : 0 < front.length := List.length_pos_iff.mpr hfront
  simp at hlength
  omega

/-- Whatever stands before a byte of ASCII, it is read by itself. -/
theorem Reads.append_cons {front bytes : Bytes} {text text' : List Char} {b : UInt8}
    (hb : b.toNat < 128) (h : Reads front text) (h' : Reads bytes text') :
    Reads (front ++ b :: bytes) (text ++ Char.ofNat b.toNat :: text') := by
  induction h with
  | nil =>
    rw [List.nil_append, List.nil_append, ← List.singleton_append, ← utf8EncodeChar_of_ascii hb]
    exact .char _ h'
  | char c h ih =>
    rw [List.append_assoc]
    exact .char c ih
  | @unfinished front rest text hfront hend h ih =>
    rw [List.append_assoc]
    refine .unfinished hfront ?_ ih
    cases rest with
    | nil =>
      intro b' hb'
      obtain rfl : b = b' := by simpa using hb'
      exact not_begins_append_ascii hfront.1 hb
    | cons next rest => exact hend
  | stray hb' h ih => exact .stray hb' ih

/-- A character of ASCII is read only where its byte stands. -/
theorem Reads.mem_bytes {bytes : Bytes} {text : List Char} (h : Reads bytes text) {b : UInt8}
    (hb : b.toNat < 128) (hmem : Char.ofNat b.toNat ∈ text) : b ∈ bytes := by
  have hreplacement : Char.ofNat b.toNat ≠ replacement := by
    intro heq
    have hnumber : b.toNat = replacement.toNat := by
      rw [← heq, Char.toNat, val_ofNat (.inl (by omega))]
    rw [hnumber] at hb
    exact absurd hb (by decide)
  induction h with
  | nil => exact absurd hmem List.not_mem_nil
  | char c h ih =>
    rcases List.mem_cons.mp hmem with rfl | hmem
    · rw [utf8EncodeChar_of_ascii hb]
      exact List.mem_cons_self
    · exact List.mem_append_right _ (ih hmem)
  | unfinished hfront hend h ih =>
    exact List.mem_append_right _ (ih (List.mem_of_ne_of_mem hreplacement hmem))
  | stray hb' h ih => exact List.mem_cons_of_mem _ (ih (List.mem_of_ne_of_mem hreplacement hmem))

end Utf8

/-- A byte of ASCII is read by itself, and what stands before it and behind it are read each by
    itself too. -/
theorem decode_append_cons {b : UInt8} (hb : b.toNat < 128) (front bytes : Bytes) :
    decode (front ++ b :: bytes) = decode front ++ Char.ofNat b.toNat :: decode bytes := by
  have h : Utf8.Reads (front ++ b :: bytes) (decode front ++ Char.ofNat b.toNat :: decode bytes) :=
    .append_cons hb (Utf8.reads_iff.mpr rfl) (Utf8.reads_iff.mpr rfl)
  exact (Utf8.reads_iff.mp h).symm

/-- A character of ASCII is read only where its byte stands, in any bytes. -/
theorem mem_of_mem_decode {b : UInt8} (hb : b.toNat < 128) {bytes : Bytes}
    (h : Char.ofNat b.toNat ∈ decode bytes) : b ∈ bytes :=
  (Utf8.reads_iff.mpr rfl).mem_bytes hb h

/-- Cutting bytes at a byte of ASCII and reading the pieces is reading the bytes and cutting the
    text at its character. -/
theorem splitOn_decode {b : UInt8} (hb : b.toNat < 128) (bytes : Bytes) :
    (decode bytes).splitOn (Char.ofNat b.toNat) = (bytes.splitOn b).map decode := by
  by_cases hmem : b ∈ bytes
  · obtain ⟨front, rest, hbytes⟩ := List.append_of_mem hmem
    have hfront := splitOn_decode hb front
    have hrest := splitOn_decode hb rest
    rw [hbytes, decode_append_cons hb, List.splitOn_append_cons_self,
      List.splitOn_append_cons_self, hfront, hrest, List.map_append]
  · have hchar : Char.ofNat b.toNat ∉ decode bytes := fun h => hmem (mem_of_mem_decode hb h)
    rw [List.splitOn_eq_singleton hchar, List.splitOn_eq_singleton hmem]
    rfl
termination_by bytes.length
decreasing_by
  all_goals
    rw [hbytes, List.length_append, List.length_cons]
    omega

end SchemaFilter
