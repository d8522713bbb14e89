import SchemaFilter.Json.Decode
import SchemaFilter.Proofs.Json.Layout
import SchemaFilter.Proofs.Text.Pieces

/-!
# Readers that invert a value

A reader inverts a value if it reads some result from every text of the value, in either layout,
with any gap before it, and leaves what follows.  What follows must not look like more of a number.
Lists and records are inverted by their parts.

* `EndsValue` — what can follow a value;
* `Inverts` — the reader reads the result from every text of the value;
* `inverts_readString`, `inverts_readVariant` — strings, and the members of closed types;
* `inverts_readList` — lists, from their items;
* `RecordType.Fills`, `RecordType.inverts_readRecord` — records, from their fields.
-/

namespace SchemaFilter.Json

variable {α σ : Type}

/-! ### What follows a value -/

/-- A text can follow a value, even if that is a number: it does not begin with a digit. -/
def EndsValue (rest : List Char) : Prop :=
  ∀ c ∈ rest.head?, c.isDigit = false

theorem endsValue_nil : EndsValue [] := by
  rintro _ ⟨⟩

theorem endsValue_cons {c : Char} (h : c.isDigit = false) (rest : List Char) :
    EndsValue (c :: rest) := by
  rintro _ ⟨⟩
  exact h

/-- A gap can follow a value, and so can what is behind the gap if that can. -/
theorem IsGap.endsValue_append {gap rest : List Char} (hgap : IsGap gap) (h : EndsValue rest) :
    EndsValue (gap ++ rest) := by
  cases gap with
  | nil => exact h
  | cons c gap =>
    exact endsValue_cons (isDigit_of_mem_gapChars (hgap c List.mem_cons_self)) (gap ++ rest)

theorem IsGap.endsValue {gap : List Char} (hgap : IsGap gap) : EndsValue gap := by
  have h := hgap.endsValue_append endsValue_nil
  rwa [List.append_nil] at h

/-- Behind a part, the others can follow, and then a gap and the bracket that ends all of them. -/
theorem endsValue_partsBehind {close : List Char} (hclose : IsGap close) {bracket : Char}
    (hbracket : bracket.isDigit = false) (gap : List Char) (parts : List (List Char))
    (rest : List Char) : EndsValue (partsBehind gap parts ++ (close ++ bracket :: rest)) := by
  cases parts with
  | nil => exact hclose.endsValue_append (endsValue_cons hbracket rest)
  | cons part parts =>
    rw [partsBehind_cons]
    exact endsValue_cons (by decide) _

/-! ### Readers and values -/

/-- The reader reads the result from every text of the value, with any gap before it, and leaves
    what follows. -/
def Inverts (read : Read α) (value : Value) (a : α) : Prop :=
  ∀ text, value.IsText text → ∀ gap rest, IsGap gap → EndsValue rest →
    read (gap ++ (text ++ rest)) = .ok (a, rest)

theorem Value.IsText.skipBlanks {value : Value} {text : List Char} (h : value.IsText text)
    {gap : List Char} (hgap : IsGap gap) (rest : List Char) :
    skipBlanks (gap ++ (text ++ rest)) = text ++ rest := by
  obtain ⟨c, tail, rfl, hc, -, -⟩ := h.opens
  rw [skipBlanks_append hgap, List.cons_append, skipBlanks_cons_of_notMem hc]

/-! ### Strings -/

theorem stringChars_append (s : String) (rest : List Char) :
    stringChars s ++ rest = '"' :: (s.toList.flatMap escapeChar ++ '"' :: rest) := by
  simp [stringChars]

theorem inverts_readString (s : String) : Inverts readString (.string s) s := by
  intro text htext gap rest hgap _
  rw [readString, htext.skipBlanks hgap, htext.string, stringChars_append]
  show (readBody (s.toList.flatMap escapeChar ++ '"' :: rest)).map _ = _
  rw [readBody_flatMap_escapeChar]
  show Except.ok (String.ofList s.toList, rest) = _
  rw [String.ofList_toList]

theorem inverts_readString? (s : Option String) :
    Inverts readString? (s.elim .null .string) s := by
  intro text htext gap rest hgap hends
  rw [readString?, htext.skipBlanks hgap]
  cases s with
  | none =>
    rw [show text = _ from htext.null]
    rfl
  | some s =>
    have hread : readString (text ++ rest) = .ok (s, rest) :=
      inverts_readString s text htext [] rest isGap_nil hends
    rw [show text = _ from htext.string, stringChars_append] at hread ⊢
    show (readString ('"' :: (s.toList.flatMap escapeChar ++ '"' :: rest))).map _ = _
    rw [hread]
    rfl

/-- A member of a closed type is found by its name. -/
theorem inverts_readVariant {all : List (String × α)} {name : String} {a : α}
    (h : all.lookup name = some a) : Inverts (readVariant all) (.string name) a := by
  intro text htext gap rest hgap _
  rw [readVariant, htext.skipBlanks hgap, htext.string, stringChars_append]
  show readVariantName all (name.toList.flatMap escapeChar ++ '"' :: rest) = _
  unfold readVariantName
  rw [readBody_flatMap_escapeChar]
  simp only [bind, Except.bind, String.ofList_toList, h]
  rfl

/-! ### Lists -/

section Lists

variable {read : Read α} {gap close : List Char}

/-- The end of a list is seen behind a gap. -/
theorem nextItem?_close (hclose : IsGap close) (first : Bool) (rest : List Char) :
    nextItem? first (close ++ ']' :: rest) = .ok none := by
  rw [nextItem?, skipBlanks_append hclose]
  rfl

/-- The first item of a list is seen behind a gap. -/
theorem nextItem?_first {value : Value} {text : List Char} (htext : value.IsText text)
    (hgap : IsGap gap) (rest : List Char) :
    nextItem? true (gap ++ (text ++ rest)) = .ok (some (text ++ rest)) := by
  rw [nextItem?, htext.skipBlanks hgap]
  obtain ⟨c, tail, rfl, -, hcomma, hend⟩ := htext.opens
  simp [hcomma, hend]

/-- The other items are seen behind a comma and a gap. -/
theorem nextItem?_behind {value : Value} {text : List Char} (htext : value.IsText text)
    (hgap : IsGap gap) (rest : List Char) :
    nextItem? false (',' :: (gap ++ (text ++ rest))) = .ok (some (text ++ rest)) := by
  rw [nextItem?, skipBlanks_cons_of_notMem (by decide)]
  simp only [htext.skipBlanks hgap]
  obtain ⟨c, tail, rfl, -, -, hend⟩ := htext.opens
  simp [hend]

/-- An item is read, and then the items behind it. -/
theorem readItems_cons {first : Bool} {text text' text'' rest : List Char} {a : α} {as : List α}
    {limit : Nat} (hnext : nextItem? first text = .ok (some text'))
    (hread : read text' = .ok (a, text''))
    (hbehind : readItems read limit false text'' = .ok (as, rest)) :
    readItems read (limit + 1) first text = .ok (a :: as, rest) := by
  rw [readItems, hnext]
  show (read text' >>= _) = _
  rw [hread]
  show (readItems read limit false text'' >>= _) = _
  rw [hbehind]
  rfl

theorem readItems_nil (hclose : IsGap close) (limit : Nat) (first : Bool) (rest : List Char) :
    readItems read (limit + 1) first (close ++ ']' :: rest) = .ok ([], close ++ ']' :: rest) := by
  rw [readItems, nextItem?_close hclose]
  rfl

/-- Behind an item, the others are read up to the end of the list. -/
theorem readItems_behind (hgap : IsGap gap) (hclose : IsGap close) {items : List Value}
    {texts : List (List Char)} {as : List α} (htexts : List.Forall₂ Value.IsText items texts)
    (hread : List.Forall₂ (Inverts read) items as) {limit : Nat} (hlimit : texts.length < limit)
    (rest : List Char) :
    readItems read limit false (partsBehind gap texts ++ (close ++ ']' :: rest)) =
      .ok (as, close ++ ']' :: rest) := by
  obtain ⟨limit, rfl⟩ := Nat.exists_eq_succ_of_ne_zero (Nat.ne_zero_of_lt hlimit)
  induction htexts generalizing as limit with
  | nil =>
    cases hread
    exact readItems_nil hclose limit false rest
  | @cons item text items texts htext _ ih =>
    cases hread with
    | cons hitem hitems =>
      rw [List.length_cons, Nat.succ_lt_succ_iff] at hlimit
      obtain ⟨limit, rfl⟩ := Nat.exists_eq_succ_of_ne_zero (Nat.ne_zero_of_lt hlimit)
      rw [partsBehind_cons, List.cons_append, List.append_assoc, List.append_assoc]
      have hends := endsValue_partsBehind hclose (by decide : ']'.isDigit = false) gap
      exact readItems_cons (nextItem?_behind htext hgap _)
        (hitem text htext [] _ isGap_nil (hends _ rest)) (ih hitems limit hlimit)

/-- All items are read up to the end of the list. -/
theorem readItems_commaParts (hgap : IsGap gap) (hclose : IsGap close) {items : List Value}
    {texts : List (List Char)} {as : List α} (htexts : List.Forall₂ Value.IsText items texts)
    (hread : List.Forall₂ (Inverts read) items as) {limit : Nat} (hlimit : texts.length < limit)
    (rest : List Char) :
    readItems read limit true (commaParts gap texts ++ (close ++ ']' :: rest)) =
      .ok (as, close ++ ']' :: rest) := by
  obtain ⟨limit, rfl⟩ := Nat.exists_eq_succ_of_ne_zero (Nat.ne_zero_of_lt hlimit)
  cases htexts with
  | nil =>
    cases hread
    exact readItems_nil hclose limit true rest
  | @cons item text items texts htext htexts =>
    cases hread with
    | cons hitem hitems =>
      rw [List.length_cons, Nat.succ_lt_succ_iff] at hlimit
      rw [commaParts_cons, List.append_assoc, List.append_assoc]
      have hends := endsValue_partsBehind hclose (by decide : ']'.isDigit = false) gap
      exact readItems_cons (nextItem?_first htext hgap _)
        (hitem text htext [] _ isGap_nil (hends _ rest))
        (readItems_behind hgap hclose htexts hitems hlimit rest)

theorem endArray_append (hclose : IsGap close) (rest : List Char) :
    endArray (close ++ ']' :: rest) = .ok rest := by
  rw [endArray, skipBlanks_append hclose]
  rfl

/-- **Lists.**  Where a reader inverts each item, the reader of lists inverts the array. -/
theorem inverts_readList {items : List Value} {as : List α}
    (h : List.Forall₂ (Inverts read) items as) : Inverts (readList read) (.array items) as := by
  intro text htext before rest hbefore _
  rw [readList, htext.skipBlanks hbefore]
  obtain ⟨gap, close, texts, hgap, hclose, htexts, rfl⟩ := htext.array
  rw [List.cons_append, List.append_assoc, List.append_assoc, List.singleton_append]
  -- The steps are as many as there are characters, so that there is one for each item.
  have hlimit : texts.length <
      (commaParts gap texts ++ (close ++ ']' :: rest)).length + 1 := by
    have hlength := length_le_commaParts gap texts
    simp only [List.length_append, List.length_cons]
    omega
  have hitems := readItems_commaParts hgap hclose htexts h hlimit rest
  show (readItems read _ true (commaParts gap texts ++ (close ++ ']' :: rest)) >>= _) = _
  rw [hitems]
  show (endArray (close ++ ']' :: rest) >>= _) = _
  rw [endArray_append hclose]
  rfl

/-- Values that are written one by one are read one by one. -/
theorem inverts_readList_map {write : α → Value} (h : ∀ a, Inverts read (write a) a)
    (as : List α) : Inverts (readList read) (.array (as.map write)) as := by
  apply inverts_readList
  rw [List.forall₂_map_left_iff, List.forall₂_same]
  exact fun a _ => h a

end Lists

/-! ### Records -/

namespace RecordType

variable (type : RecordType σ α)

/-- Members take what has been read of a record from one state to another, in order: each is a field
    that has not been read yet, and the reader of the field inverts the value. -/
inductive Fills : σ → List (String × Value) → σ → Prop
  | nil (s : σ) : Fills s [] s
  | cons {s s' s'' : σ} {key : String} {value : Value} {field : RecordField σ}
      {members : List (String × Value)} (hfield : type.fields.find? (·.name = key) = some field)
      (hnew : field.isRead s = false) (hread : Inverts (field.read s) value s')
      (hrest : Fills s' members s'') : Fills s ((key, value) :: members) s''

variable {type} {gap space close : List Char}

/-- The end of an object is seen behind a gap. -/
theorem nextKey?_close (hclose : IsGap close) (first : Bool) (rest : List Char) :
    nextKey? first (close ++ '\x7d' :: rest) = .ok none := by
  rw [nextKey?, skipBlanks_append hclose]
  rfl

/-- The first key of an object is seen behind a gap. -/
theorem nextKey?_first (hgap : IsGap gap) (rest : List Char) :
    nextKey? true (gap ++ '"' :: rest) = .ok (some rest) := by
  rw [nextKey?, skipBlanks_append hgap]
  rfl

/-- The other keys are seen behind a comma and a gap. -/
theorem nextKey?_behind (hgap : IsGap gap) (rest : List Char) :
    nextKey? false (',' :: (gap ++ '"' :: rest)) = .ok (some rest) := by
  rw [nextKey?, skipBlanks_cons_of_notMem (by decide)]
  simp only [skipBlanks_append hgap]
  rfl

theorem memberChars_append (space : List Char) (key : String) (text rest : List Char) :
    memberChars space key text ++ rest =
      '"' :: (key.toList.flatMap escapeChar ++ '"' :: ':' :: (space ++ (text ++ rest))) := by
  simp [memberChars, stringChars]

/-- A member is read, and then the members behind it. -/
theorem readMembers_cons {first : Bool} {s s' s'' : σ} {key : String} {value : Value}
    {field : RecordField σ} {text text' valueText rest : List Char} {limit : Nat}
    (hfield : type.fields.find? (·.name = key) = some field) (hnew : field.isRead s = false)
    (hread : Inverts (field.read s) value s') (hspace : IsGap space)
    (hvalue : value.IsText valueText) (hends : EndsValue text')
    (hnext : nextKey? first text = .ok (some
      (key.toList.flatMap escapeChar ++ '"' :: ':' :: (space ++ (valueText ++ text')))))
    (hbehind : type.readMembers limit false s' text' = .ok (s'', rest)) :
    type.readMembers (limit + 1) first s text = .ok (s'', rest) := by
  have hmember : type.readMember key s (':' :: (space ++ (valueText ++ text'))) =
      .ok (s', text') := by
    rw [readMember, hfield]
    dsimp only
    rw [hnew, readColon, skipBlanks_cons_of_notMem (by decide)]
    exact hread valueText hvalue space text' hspace hends
  rw [readMembers, hnext]
  show (readBody _ >>= _) = _
  rw [readBody_flatMap_escapeChar]
  show (type.readMember (String.ofList key.toList) s _ >>= _) = _
  rw [String.ofList_toList, hmember]
  exact hbehind

theorem readMembers_nil (hclose : IsGap close) (limit : Nat) (first : Bool) (s : σ)
    (rest : List Char) :
    type.readMembers (limit + 1) first s (close ++ '\x7d' :: rest) =
      .ok (s, close ++ '\x7d' :: rest) := by
  rw [readMembers, nextKey?_close hclose]
  rfl

/-- Behind a member, the others are read up to the end of the object. -/
theorem readMembers_behind (hgap : IsGap gap) (hspace : IsGap space) (hclose : IsGap close)
    {members : List (String × Value)} {parts : List (List Char)} {s s' : σ}
    (hparts : List.Forall₂ (Value.IsMemberText space) members parts)
    (hfills : type.Fills s members s') {limit : Nat} (hlimit : parts.length < limit)
    (rest : List Char) :
    type.readMembers limit false s (partsBehind gap parts ++ (close ++ '\x7d' :: rest)) =
      .ok (s', close ++ '\x7d' :: rest) := by
  obtain ⟨limit, rfl⟩ := Nat.exists_eq_succ_of_ne_zero (Nat.ne_zero_of_lt hlimit)
  induction hparts generalizing s limit with
  | nil =>
    cases hfills
    exact readMembers_nil hclose limit false _ rest
  | cons hpart _ ih =>
    obtain ⟨text, htext, rfl⟩ := hpart
    cases hfills with
    | cons hfield hnew hread hrest =>
      rw [List.length_cons, Nat.succ_lt_succ_iff] at hlimit
      obtain ⟨limit, rfl⟩ := Nat.exists_eq_succ_of_ne_zero (Nat.ne_zero_of_lt hlimit)
      rw [partsBehind_cons, List.cons_append, List.append_assoc, List.append_assoc,
        memberChars_append]
      have hends := endsValue_partsBehind hclose (by decide : '\x7d'.isDigit = false) gap
      exact readMembers_cons hfield hnew hread hspace htext (hends _ rest) (nextKey?_behind hgap _)
        (ih hrest limit hlimit)

/-- All members are read up to the end of the object. -/
theorem readMembers_commaParts (hgap : IsGap gap) (hspace : IsGap space) (hclose : IsGap close)
    {members : List (String × Value)} {parts : List (List Char)} {s s' : σ}
    (hparts : List.Forall₂ (Value.IsMemberText space) members parts)
    (hfills : type.Fills s members s') {limit : Nat} (hlimit : parts.length < limit)
    (rest : List Char) :
    type.readMembers limit true s (commaParts gap parts ++ (close ++ '\x7d' :: rest)) =
      .ok (s', close ++ '\x7d' :: rest) := by
  obtain ⟨limit, rfl⟩ := Nat.exists_eq_succ_of_ne_zero (Nat.ne_zero_of_lt hlimit)
  cases hparts with
  | nil =>
    cases hfills
    exact readMembers_nil hclose limit true _ rest
  | cons hpart hparts =>
    obtain ⟨text, htext, rfl⟩ := hpart
    cases hfills with
    | cons hfield hnew hread hrest =>
      rw [List.length_cons, Nat.succ_lt_succ_iff] at hlimit
      rw [commaParts_cons, List.append_assoc, List.append_assoc, memberChars_append]
      have hends := endsValue_partsBehind hclose (by decide : '\x7d'.isDigit = false) gap
      exact readMembers_cons hfield hnew hread hspace htext (hends _ rest) (nextKey?_first hgap _)
        (readMembers_behind hgap hspace hclose hparts hrest hlimit rest)

/-- **Records.**  Where the members of an object fill a record, the reader of records inverts the
    object. -/
theorem inverts_readRecord {members : List (String × Value)} {s : σ} {a : α}
    (hfills : type.Fills type.start members s) (hfinish : type.finish s = .ok a) :
    Inverts type.readRecord (.object members) a := by
  intro text htext before rest hbefore _
  rw [readRecord, htext.skipBlanks hbefore]
  obtain ⟨gap, space, close, parts, hgap, hspace, hclose, hparts, rfl⟩ := htext.object
  rw [List.cons_append, List.append_assoc, List.append_assoc, List.singleton_append]
  -- The steps are as many as there are characters, so that there is one for each member.
  have hlimit : parts.length <
      (commaParts gap parts ++ (close ++ '\x7d' :: rest)).length + 1 := by
    have hlength := length_le_commaParts gap parts
    simp only [List.length_append, List.length_cons]
    omega
  have hmembers := readMembers_commaParts hgap hspace hclose hparts hfills hlimit rest
  show (type.readMembers _ true type.start (commaParts gap parts ++ (close ++ '\x7d' :: rest)) >>=
    _) = _
  rw [hmembers]
  show (type.finish s >>= _) = _
  rw [hfinish]
  show Except.ok (a, (skipBlanks (close ++ '\x7d' :: rest)).tail) = _
  rw [skipBlanks_append hclose]
  rfl

end RecordType

end SchemaFilter.Json
