import Mathlib.Data.List.Forall2
import SchemaFilter.Proofs.Json.Text
import SchemaFilter.Proofs.Text.Pieces

/-!
# How values are laid out

A value is written without blanks, or on lines of its own at some depth.  Either way, arrays and
objects have the same parts in the same order, with commas and gaps between them.

* `commaParts`, `memberChars` — parts of arrays and objects with commas and gaps;
* `Value.IsText` — a text of a value, in either of the two layouts;
* `Value.IsText.array`, `Value.IsText.object` — **arrays and objects** by their parts;
* `Value.IsText.opens` — how the text of a value begins.
-/

namespace SchemaFilter.Json

/-! ### Parts -/

/-- Parts with commas between them, each behind a gap. -/
def commaParts (gap : List Char) (parts : List (List Char)) : List Char :=
  joinWith [','] (parts.map (gap ++ ·))

/-- A member: its key, and behind a colon and a gap the text of its value. -/
def memberChars (space : List Char) (key : String) (text : List Char) : List Char :=
  stringChars key ++ [':'] ++ space ++ text

/-- Parts behind the first, each with a comma and a gap before it. -/
def partsBehind (gap : List Char) (parts : List (List Char)) : List Char :=
  parts.flatMap fun part => ',' :: (gap ++ part)

theorem commaParts_cons (gap part : List Char) (parts : List (List Char)) :
    commaParts gap (part :: parts) = gap ++ (part ++ partsBehind gap parts) := by
  rw [commaParts, List.map_cons, joinWith_cons, List.flatMap_map, List.append_assoc]
  rfl

theorem partsBehind_cons (gap part : List Char) (parts : List (List Char)) :
    partsBehind gap (part :: parts) = ',' :: (gap ++ (part ++ partsBehind gap parts)) := by
  rw [partsBehind, List.flatMap_cons, List.cons_append, List.append_assoc]
  rfl

theorem length_le_partsBehind (gap : List Char) (parts : List (List Char)) :
    parts.length ≤ (partsBehind gap parts).length := by
  induction parts with
  | nil => exact Nat.zero_le _
  | cons part parts ih =>
    rw [partsBehind_cons, List.length_cons, List.length_cons, List.length_append,
      List.length_append]
    omega

/-- There is a character at least for each part but the first. -/
theorem length_le_commaParts (gap : List Char) (parts : List (List Char)) :
    parts.length ≤ (commaParts gap parts).length + 1 := by
  cases parts with
  | nil => exact Nat.zero_le _
  | cons part parts =>
    have hbehind := length_le_partsBehind gap parts
    rw [commaParts_cons, List.length_cons, List.length_append, List.length_append]
    omega

/-- Whatever puts commas between its parts, and a gap before each, does just that. -/
private theorem eq_commaParts {α : Type} {gap : List Char} {write : α → List Char}
    {parts : List α → List Char} (hnil : parts [] = []) (hone : ∀ a, parts [a] = gap ++ write a)
    (hmore : ∀ a b as, parts (a :: b :: as) = gap ++ write a ++ [','] ++ parts (b :: as))
    (as : List α) : parts as = commaParts gap (as.map write) := by
  induction as with
  | nil => exact hnil
  | cons a as ih =>
    cases as with
    | nil => exact hone a
    | cons b as =>
      rw [hmore, ih]
      rfl

namespace Value

/-- Members, each with its value in some layout. -/
def memberParts (space : List Char) (write : Value → List Char)
    (members : List (String × Value)) : List (List Char) :=
  members.map fun member => memberChars space member.1 (write member.2)

theorem compactItems_eq (items : List Value) :
    compactItems items = commaParts [] (items.map compactChars) := by
  refine eq_commaParts rfl ?_ ?_ items
  · simp [compactItems]
  · simp [compactItems]

theorem prettyItems_eq (depth : Nat) (items : List Value) :
    prettyItems depth items = commaParts (newLine depth) (items.map (prettyChars depth)) := by
  refine eq_commaParts rfl ?_ ?_ items
  · simp [prettyItems]
  · simp [prettyItems]

theorem compactMembers_eq (members : List (String × Value)) :
    compactMembers members = commaParts [] (memberParts [] compactChars members) := by
  refine eq_commaParts rfl ?_ ?_ members
  · rintro ⟨key, value⟩
    simp [compactMembers, memberChars]
  · rintro ⟨key, value⟩ next members
    simp [compactMembers, memberChars]

theorem prettyMembers_eq (depth : Nat) (members : List (String × Value)) :
    prettyMembers depth members =
      commaParts (newLine depth) (memberParts [' '] (prettyChars depth) members) := by
  refine eq_commaParts rfl ?_ ?_ members
  · rintro ⟨key, value⟩
    simp [prettyMembers, memberChars]
  · rintro ⟨key, value⟩ next members
    simp [prettyMembers, memberChars]

/-! ### Texts of values -/

/-- The text is written for the value, without blanks or on lines of its own at some depth. -/
def IsText (value : Value) (text : List Char) : Prop :=
  text = value.compactChars ∨ ∃ depth, text = value.prettyChars depth

theorem IsText.null {text : List Char} (h : Value.null.IsText text) :
    text = ['n', 'u', 'l', 'l'] := by
  rcases h with rfl | ⟨depth, rfl⟩ <;> rfl

theorem IsText.bool {b : Bool} {text : List Char} (h : (Value.bool b).IsText text) :
    text = (Value.bool b).compactChars := by
  cases b <;> rcases h with rfl | ⟨depth, rfl⟩ <;> rfl

theorem IsText.number {n : Nat} {text : List Char} (h : (Value.number n).IsText text) :
    text = Nat.toDigits 10 n := by
  rcases h with rfl | ⟨depth, rfl⟩ <;> exact Nat.toList_repr

theorem IsText.string {s : String} {text : List Char} (h : (Value.string s).IsText text) :
    text = stringChars s := by
  rcases h with rfl | ⟨depth, rfl⟩ <;> rfl

/-- **Arrays.**  The texts of the items stand between brackets, with commas and gaps. -/
theorem IsText.array {items : List Value} {text : List Char}
    (h : (Value.array items).IsText text) :
    ∃ gap close texts, IsGap gap ∧ IsGap close ∧ List.Forall₂ IsText items texts ∧
      text = '[' :: (commaParts gap texts ++ (close ++ [']'])) := by
  rcases h with rfl | ⟨depth, rfl⟩
  · refine ⟨[], [], items.map compactChars, isGap_nil, isGap_nil, ?_, ?_⟩
    · rw [List.forall₂_map_right_iff, List.forall₂_same]
      exact fun item _ => .inl rfl
    · show ['['] ++ compactItems items ++ [']'] = _
      rw [compactItems_eq]
      rfl
  · cases items with
    | nil => exact ⟨[], [], [], isGap_nil, isGap_nil, .nil, rfl⟩
    | cons item items =>
      refine ⟨newLine (depth + 1), newLine depth, (item :: items).map (prettyChars (depth + 1)),
        isGap_newLine _, isGap_newLine _, ?_, ?_⟩
      · rw [List.forall₂_map_right_iff, List.forall₂_same]
        exact fun item _ => .inr ⟨depth + 1, rfl⟩
      · show ['['] ++ prettyItems (depth + 1) (item :: items) ++ newLine depth ++ [']'] = _
        rw [prettyItems_eq, List.append_assoc, List.append_assoc]
        rfl

/-- The part of an object is a member of it, with a text for its value. -/
def IsMemberText (space : List Char) (member : String × Value) (part : List Char) : Prop :=
  ∃ text, member.2.IsText text ∧ part = memberChars space member.1 text

theorem isMemberText_memberParts {write : Value → List Char}
    (hwrite : ∀ value, IsText value (write value)) (space : List Char) (members : List (String × Value)) :
    List.Forall₂ (IsMemberText space) members (memberParts space write members) := by
  rw [memberParts, List.forall₂_map_right_iff, List.forall₂_same]
  exact fun member _ => ⟨_, hwrite member.2, rfl⟩

/-- **Objects.**  The members stand between braces, with commas and gaps. -/
theorem IsText.object {members : List (String × Value)} {text : List Char}
    (h : (Value.object members).IsText text) :
    ∃ gap space close parts, IsGap gap ∧ IsGap space ∧ IsGap close ∧
      List.Forall₂ (IsMemberText space) members parts ∧
      text = '\x7b' :: (commaParts gap parts ++ (close ++ ['\x7d'])) := by
  rcases h with rfl | ⟨depth, rfl⟩
  · refine ⟨[], [], [], memberParts [] compactChars members, isGap_nil, isGap_nil, isGap_nil,
      isMemberText_memberParts (fun _ => .inl rfl) _ _, ?_⟩
    show ['\x7b'] ++ compactMembers members ++ ['\x7d'] = _
    rw [compactMembers_eq]
    rfl
  · cases members with
    | nil => exact ⟨[], [], [], [], isGap_nil, isGap_nil, isGap_nil, .nil, rfl⟩
    | cons member members =>
      refine ⟨newLine (depth + 1), [' '], newLine depth,
        memberParts [' '] (prettyChars (depth + 1)) (member :: members),
        isGap_newLine _, by decide, isGap_newLine _,
        isMemberText_memberParts (fun _ => .inr ⟨depth + 1, rfl⟩) _ _, ?_⟩
      show ['\x7b'] ++ prettyMembers (depth + 1) (member :: members) ++ newLine depth ++
        ['\x7d'] = _
      rw [prettyMembers_eq, List.append_assoc, List.append_assoc]
      rfl

/-! ### How texts begin -/

/-- A number begins with a digit. -/
private theorem opens_number (n : Nat) :
    ∃ c tail, Nat.toDigits 10 n = c :: tail ∧ c ∉ gapChars ∧ c ≠ ',' ∧ c ≠ ']' := by
  obtain ⟨c, tail, hcons⟩ := List.exists_cons_of_ne_nil (Nat.toDigits_ne_nil (n := n) (b := 10))
  have hdigit : c.isDigit = true :=
    Nat.isDigit_of_mem_toDigits (by decide) (by decide) (hcons ▸ List.mem_cons_self)
  refine ⟨c, tail, hcons, ?_, ?_, ?_⟩
  · intro hc
    exact Bool.false_ne_true ((isDigit_of_mem_gapChars hc).symm.trans hdigit)
  · rintro rfl
    exact absurd hdigit (by decide)
  · rintro rfl
    exact absurd hdigit (by decide)

/-- The text of a value begins neither with a blank nor as a comma or the end of an array does. -/
theorem IsText.opens {value : Value} {text : List Char} (h : value.IsText text) :
    ∃ c tail, text = c :: tail ∧ c ∉ gapChars ∧ c ≠ ',' ∧ c ≠ ']' := by
  cases value with
  | null => exact ⟨'n', _, h.null, by decide⟩
  | bool b =>
    cases b with
    | false => exact ⟨'f', _, h.bool, by decide⟩
    | true => exact ⟨'t', _, h.bool, by decide⟩
  | number n =>
    obtain rfl := h.number
    exact opens_number n
  | string s => exact ⟨'"', _, h.string, by decide⟩
  | array items =>
    obtain ⟨gap, close, texts, -, -, -, htext⟩ := h.array
    exact ⟨'[', _, htext, by decide⟩
  | object members =>
    obtain ⟨gap, space, close, parts, -, -, -, -, htext⟩ := h.object
    exact ⟨'\x7b', _, htext, by decide⟩

end Value

end SchemaFilter.Json
