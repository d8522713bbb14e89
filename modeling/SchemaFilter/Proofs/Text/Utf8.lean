import SchemaFilter.Text.Utf8

/-!
# Reading what was written as UTF-8

* `Utf8.run_inside_more`, `Utf8.run_inside_last` — bytes that continue a character;
* `Utf8.run_two`, `Utf8.run_three`, `Utf8.run_four` — characters by the number of their bytes;
* `decode_encode_append` — the bytes of a text are read as that text, whatever follows;
* `mem_encode_iff` — a byte of ASCII stands in the bytes of a text exactly where its character
  stands in the text.
-/

namespace SchemaFilter

namespace Utf8

/-! ### The first byte of a character -/

theorem first_of_one {n : Nat} (h : n < 128) :
    first (UInt8.ofNat n) = (.start, [Char.ofNat n]) := by
  have hbyte : (UInt8.ofNat n).toNat = n := by
    rw [UInt8.toNat_ofNat', Nat.mod_eq_of_lt (by omega)]
  have hlt : UInt8.ofNat n < 0x80 := by
    rw [UInt8.lt_iff_toNat_lt, hbyte]
    exact h
  rw [first, if_pos hlt, hbyte]

theorem first_of_two : ∀ n < 32, 2 ≤ n →
    first (UInt8.ofNat (n + 192)) = (.inside 0 0x80 0xBF n, []) := by
  decide

/-- What follows may be neither a character of two bytes nor a surrogate. -/
theorem first_of_three : ∀ n < 16,
    first (UInt8.ofNat (n + 224)) =
      (.inside 1 (if n = 0 then 0xA0 else 0x80) (if n = 13 then 0x9F else 0xBF) n, []) := by
  decide

/-- What follows may be neither a character of three bytes nor one beyond the last. -/
theorem first_of_four : ∀ n < 5,
    first (UInt8.ofNat (n + 240)) =
      (.inside 2 (if n = 0 then 0x90 else 0x80) (if n = 4 then 0x8F else 0xBF) n, []) := by
  decide

/-! ### The bytes behind it -/

theorem run_cons (state : State) (b : UInt8) (bytes : Bytes) :
    run state (b :: bytes) = (step state b).2 ++ run (step state b).1 bytes := rfl

section Inside

variable {due value n : Nat} {low high : UInt8}

/-- A byte that continues a character is taken, and adds six bits. -/
private theorem mem_range_of_le (hlow : low.toNat ≤ n + 128) (hhigh : n + 128 ≤ high.toNat)
    (hn : n < 64) : (low ≤ UInt8.ofNat (n + 128) ∧ UInt8.ofNat (n + 128) ≤ high) ∧
      (UInt8.ofNat (n + 128)).toNat - 0x80 = n := by
  have hbyte : (UInt8.ofNat (n + 128)).toNat = n + 128 := by
    rw [UInt8.toNat_ofNat', Nat.mod_eq_of_lt (by omega)]
  rw [UInt8.le_iff_toNat_le, UInt8.le_iff_toNat_le, hbyte]
  exact ⟨⟨hlow, hhigh⟩, Nat.add_sub_cancel n 128⟩

theorem run_inside_more (hlow : low.toNat ≤ n + 128) (hhigh : n + 128 ≤ high.toNat)
    (hn : n < 64) (bytes : Bytes) :
    run (.inside (due + 1) low high value) (UInt8.ofNat (n + 128) :: bytes) =
      run (.inside due 0x80 0xBF (value * 64 + n)) bytes := by
  obtain ⟨hin, hbits⟩ := mem_range_of_le hlow hhigh hn
  rw [run_cons, step, if_pos hin, hbits]
  rfl

theorem run_inside_last (hlow : low.toNat ≤ n + 128) (hhigh : n + 128 ≤ high.toNat)
    (hn : n < 64) (bytes : Bytes) :
    run (.inside 0 low high value) (UInt8.ofNat (n + 128) :: bytes) =
      Char.ofNat (value * 64 + n) :: run .start bytes := by
  obtain ⟨hin, hbits⟩ := mem_range_of_le hlow hhigh hn
  rw [run_cons, step, if_pos hin, hbits]
  rfl

/-- Behind the second byte, any byte can stand that continues a character. -/
private theorem run_inside_free_more (hn : n < 64) (bytes : Bytes) :
    run (.inside (due + 1) 0x80 0xBF value) (UInt8.ofNat (n + 128) :: bytes) =
      run (.inside due 0x80 0xBF (value * 64 + n)) bytes :=
  run_inside_more (show 128 ≤ n + 128 by omega) (show n + 128 ≤ 191 by omega) hn bytes

private theorem run_inside_free_last (hn : n < 64) (bytes : Bytes) :
    run (.inside 0 0x80 0xBF value) (UInt8.ofNat (n + 128) :: bytes) =
      Char.ofNat (value * 64 + n) :: run .start bytes :=
  run_inside_last (show 128 ≤ n + 128 by omega) (show n + 128 ≤ 191 by omega) hn bytes

end Inside

/-! ### Characters -/

variable {a b c d : Nat} (bytes : Bytes)

theorem run_one (ha : a < 128) :
    run .start (UInt8.ofNat a :: bytes) = Char.ofNat a :: run .start bytes := by
  rw [run_cons, step, first_of_one ha]
  rfl

theorem run_two (ha : 2 ≤ a) (ha' : a < 32) (hb : b < 64) :
    run .start (UInt8.ofNat (a + 192) :: UInt8.ofNat (b + 128) :: bytes) =
      Char.ofNat (a * 64 + b) :: run .start bytes := by
  rw [run_cons, step, first_of_two a ha' ha]
  exact run_inside_free_last hb bytes

theorem run_three (ha : a < 16) (hlow : a = 0 → 32 ≤ b) (hhigh : a = 13 → b < 32) (hb : b < 64)
    (hc : c < 64) :
    run .start (UInt8.ofNat (a + 224) :: UInt8.ofNat (b + 128) :: UInt8.ofNat (c + 128) :: bytes) =
      Char.ofNat ((a * 64 + b) * 64 + c) :: run .start bytes := by
  have hlow' : (if a = 0 then (0xA0 : UInt8) else 0x80).toNat ≤ b + 128 := by
    split
    · exact show 160 ≤ b + 128 by omega
    · exact show 128 ≤ b + 128 by omega
  have hhigh' : b + 128 ≤ (if a = 13 then (0x9F : UInt8) else 0xBF).toNat := by
    split
    · exact show b + 128 ≤ 159 by omega
    · exact show b + 128 ≤ 191 by omega
  rw [run_cons, step, first_of_three a ha]
  exact (run_inside_more hlow' hhigh' hb _).trans (run_inside_free_last hc bytes)

theorem run_four (ha : a < 5) (hlow : a = 0 → 16 ≤ b) (hhigh : a = 4 → b < 16) (hb : b < 64)
    (hc : c < 64) (hd : d < 64) :
    run .start (UInt8.ofNat (a + 240) :: UInt8.ofNat (b + 128) :: UInt8.ofNat (c + 128) ::
        UInt8.ofNat (d + 128) :: bytes) =
      Char.ofNat (((a * 64 + b) * 64 + c) * 64 + d) :: run .start bytes := by
  have hlow' : (if a = 0 then (0x90 : UInt8) else 0x80).toNat ≤ b + 128 := by
    split
    · exact show 144 ≤ b + 128 by omega
    · exact show 128 ≤ b + 128 by omega
  have hhigh' : b + 128 ≤ (if a = 4 then (0x8F : UInt8) else 0xBF).toNat := by
    split
    · exact show b + 128 ≤ 143 by omega
    · exact show b + 128 ≤ 191 by omega
  rw [run_cons, step, first_of_four a ha]
  exact (run_inside_more hlow' hhigh' hb _).trans
    ((run_inside_free_more hc _).trans (run_inside_free_last hd bytes))

/-- The bytes of a character are read as that character. -/
theorem run_utf8EncodeChar (char : Char) :
    run .start (String.utf8EncodeChar char ++ bytes) = char :: run .start bytes := by
  obtain ⟨v, hv⟩ : ∃ v, v = char.val.toNat := ⟨_, rfl⟩
  have hvalid : v < 0xD800 ∨ 0xDFFF < v ∧ v < 0x110000 := hv ▸ char.valid
  have hchar : Char.ofNat v = char := hv ▸ Char.ofNat_toNat char
  rw [String.utf8EncodeChar, ← hv]
  -- In each case the bits of the bytes make up the number of the character again.
  split
  · exact (run_one bytes (by omega)).trans (by rw [hchar])
  split
  · refine (run_two bytes (by omega) (by omega) (by omega)).trans ?_
    rw [show v / 64 % 32 * 64 + v % 64 = v by omega, hchar]
  split
  · refine (run_three bytes (by omega) (by omega) (by omega) (by omega) (by omega)).trans ?_
    rw [show (v / 4096 % 16 * 64 + v / 64 % 64) * 64 + v % 64 = v by omega, hchar]
  · refine (run_four bytes (by omega) (by omega) (by omega) (by omega) (by omega)
      (by omega)).trans ?_
    rw [show ((v / 262144 % 8 * 64 + v / 4096 % 64) * 64 + v / 64 % 64) * 64 + v % 64 = v by omega,
      hchar]

end Utf8

/-! ### Texts -/

@[simp] theorem encode_nil : encode [] = [] := rfl

@[simp] theorem encode_append (text text' : List Char) :
    encode (text ++ text') = encode text ++ encode text' :=
  List.flatMap_append

theorem encode_cons (c : Char) (text : List Char) :
    encode (c :: text) = String.utf8EncodeChar c ++ encode text :=
  List.flatMap_cons

/-- The bytes of a text are read as that text, whatever follows. -/
theorem decode_encode_append (text : List Char) (bytes : Bytes) :
    decode (encode text ++ bytes) = text ++ decode bytes := by
  induction text with
  | nil => rfl
  | cons c text ih =>
    rw [encode_cons, List.append_assoc, decode, Utf8.run_utf8EncodeChar, ← decode, ih,
      List.cons_append]

@[simp] theorem decode_encode (text : List Char) : decode (encode text) = text := by
  have h := decode_encode_append text []
  rwa [List.append_nil, show decode [] = [] from rfl, List.append_nil] at h

@[simp] theorem decode?_encode (text : List Char) : decode? (encode text) = some text := by
  simp [decode?]

@[simp] theorem Bytes.toText_ofString (text : String) : (ofString text).toText = text := by
  rw [toText, ofString, decode_encode, String.ofList_toList]

theorem Bytes.ofString_append (text text' : String) :
    ofString (text ++ text') = ofString text ++ ofString text' := by
  rw [ofString, String.toList_append, encode_append, ← ofString, ← ofString]

/-! ### Bytes of ASCII -/

/-- A character of ASCII is one byte, and the bytes of the others are not of ASCII. -/
theorem mem_utf8EncodeChar_iff {b : UInt8} (hb : b.toNat < 128) {c : Char} :
    b ∈ String.utf8EncodeChar c ↔ c.toNat = b.toNat := by
  have hne {n : Nat} (hlow : 128 ≤ n) (hhigh : n < 256) : b ≠ UInt8.ofNat n := by
    rintro rfl
    rw [UInt8.toNat_ofNat', Nat.mod_eq_of_lt (by omega)] at hb
    omega
  rw [String.utf8EncodeChar]
  show b ∈ (if c.toNat ≤ 127 then _ else _) ↔ _
  split
  · rename_i h
    rw [List.mem_singleton, ← UInt8.toNat_inj]
    show b.toNat = (UInt8.ofNat c.toNat).toNat ↔ _
    rw [UInt8.toNat_ofNat', Nat.mod_eq_of_lt (by omega), eq_comm]
  · rename_i h
    have hother : c.toNat ≠ b.toNat := by omega
    simp only [hother, iff_false]
    split
    · simp only [List.mem_cons, List.not_mem_nil, or_false, not_or]
      exact ⟨hne (by omega) (by omega), hne (by omega) (by omega)⟩
    split
    · simp only [List.mem_cons, List.not_mem_nil, or_false, not_or]
      exact ⟨hne (by omega) (by omega), hne (by omega) (by omega), hne (by omega) (by omega)⟩
    · simp only [List.mem_cons, List.not_mem_nil, or_false, not_or]
      exact ⟨hne (by omega) (by omega), hne (by omega) (by omega), hne (by omega) (by omega),
        hne (by omega) (by omega)⟩

/-- A byte of ASCII stands in the bytes of a text exactly if its character stands in the text. -/
theorem mem_encode_iff {c : Char} (hc : c.toNat < 128) {text : List Char} :
    UInt8.ofNat c.toNat ∈ encode text ↔ c ∈ text := by
  have hbyte : (UInt8.ofNat c.toNat).toNat = c.toNat := by
    rw [UInt8.toNat_ofNat', Nat.mod_eq_of_lt (by omega)]
  rw [encode, List.mem_flatMap]
  simp only [mem_utf8EncodeChar_iff (hbyte ▸ hc), hbyte, Char.toNat_inj]
  simp

end SchemaFilter
