import Mathlib.Data.Set.List
import SchemaFilter.Command.ObjectArgument
import SchemaFilter.Proofs.Text.Pieces
import SchemaFilter.Proofs.Text.Trim

/-!
# How objects are spelled

An argument is an object exactly if it is spelled as one: a type, a colon, and the parts of a name
with dots between them, where blanks may stand around the type and around each part.  Only the first
colon counts, and no dot before it does.

* `Padded` — a word with blanks around it;
* `HasType`, `HasParts` — the type is there, and so is each part;
* `parseChars_of_not_hasType` and its neighbours — how a text is read that has them, or lacks one;
* `Spelling` — how an object is spelled; `Spelling.object`, the object;
* `parse_iff_spelling` — **the grammar**: exactly the spellings are read, each as its object.
-/

namespace SchemaFilter

/-! ### Words with blanks around them -/

/-- A word, which is not blank and begins and ends with no blank, and blanks around it. -/
structure Padded where
  left : List Char
  word : List Char
  right : List Char
  allBlank_left : allBlank left = true
  allBlank_right : allBlank right = true
  allBlank_word : allBlank word = false
  trim_word : trim word = word

namespace Padded

/-- The word, with the blanks around it. -/
def chars (p : Padded) : List Char :=
  p.left ++ p.word ++ p.right

/-- The word alone. -/
def text (p : Padded) : String :=
  .ofList p.word

theorem trim_chars (p : Padded) : trim p.chars = p.word := by
  rw [chars, trim_append_of_blank p.allBlank_left p.allBlank_right, p.trim_word]

theorem allBlank_chars (p : Padded) : allBlank p.chars = false := by
  rw [← allBlank_trim, trim_chars, p.allBlank_word]

/-- Every text that is not blank is a word with blanks around it. -/
theorem exists_chars_eq {text : List Char} (h : allBlank text = false) :
    ∃ p : Padded, p.chars = text := by
  obtain ⟨left, right, htext, hleft, hright⟩ := exists_eq_append_trim text
  refine ⟨⟨left, trim text, right, hleft, hright, ?_, trim_trim text⟩, htext.symm⟩
  rw [allBlank_trim, h]

/-- What is no blank stands in the word, or not at all. -/
theorem mem_chars_iff {p : Padded} {c : Char} (hc : isBlank c = false) :
    c ∈ p.chars ↔ c ∈ p.word := by
  have hpadding {blanks : List Char} (h : allBlank blanks = true) : c ∉ blanks := by
    intro hmem
    exact absurd (allBlank_eq_true_iff.mp h c hmem) (by simp [hc])
  simp [chars, hpadding p.allBlank_left, hpadding p.allBlank_right]

end Padded

/-! ### Objects of a name -/

/-- A name in at least one part is the name of an object. -/
theorem SchemaObject.ofParts?_cons (objectType first : String) (others : List String) :
    ofParts? objectType (first :: others) = some {
      objectType
      schema := first
      name := (first :: others).getLast (List.cons_ne_nil first others)
      multiPartName := ",".intercalate (first :: others) } := by
  have hjoin : joinParts (first :: others) = ",".intercalate (first :: others) := by
    rw [joinParts, joinWith_eq_intercalate, ← String.toList_inj, String.toList_ofList,
      String.toList_intercalate]
    rfl
  rw [ofParts?, List.head?_cons,
    List.getLast?_eq_getLast_of_ne_nil (List.cons_ne_nil first others), hjoin]
  rfl

namespace ObjectArgument

/-! ### What a text has -/

/-- What stands before the first colon. -/
def typeChars (text : List Char) : List Char :=
  text.takeWhile (· ≠ ':')

/-- What stands behind the first colon. -/
def nameChars (text : List Char) : List Char :=
  (text.dropWhile (· ≠ ':')).tail

/-- There is a colon, and something before it. -/
def HasType (text : List Char) : Prop :=
  ':' ∈ text ∧ allBlank (typeChars text) = false

/-- Between dots, each part of the name is something. -/
def HasParts (text : List Char) : Prop :=
  ∀ part ∈ (nameChars text).splitOn '.', allBlank part = false

variable {text : List Char}

/-- What stands before the first colon, the colon, and what stands behind it make up a text. -/
theorem typeChars_append_nameChars (hcolon : ':' ∈ text) :
    typeChars text ++ ':' :: nameChars text = text := by
  have hrest : text.dropWhile (· ≠ ':') = ':' :: nameChars text := by
    cases h : text.dropWhile (· ≠ ':') with
    | nil => exact absurd (List.dropWhile_eq_nil_iff.mp h ':' hcolon) (by simp)
    | cons c rest =>
      have hc := List.head?_dropWhile_not (· ≠ ':') text
      rw [h] at hc
      obtain rfl : c = ':' := by simpa using hc
      rw [nameChars, h, List.tail_cons]
  rw [typeChars, ← hrest, List.takeWhile_append_dropWhile]

theorem parseChars_of_not_hasType (h : ¬ HasType text) :
    parseChars text = .error .missingType := by
  rw [parseChars, typeSeparator, cutAt?_singleton]
  by_cases hcolon : ':' ∈ text
  · have hblank : allBlank (typeChars text) = true := by
      by_contra hshown
      exact h ⟨hcolon, Bool.not_eq_true _ ▸ hshown⟩
    rw [if_pos hcolon]
    exact if_pos hblank
  · rw [if_neg hcolon]

/-- Behind a type, the name decides. -/
theorem parseChars_of_hasType (h : HasType text) :
    parseChars text =
      if ((nameChars text).splitOn '.').any allBlank then .error .emptyPart
      else
        match SchemaObject.ofParts? (.ofList (trim (typeChars text)))
            (((nameChars text).splitOn '.').map fun part => .ofList (trim part)) with
        | none => .error .emptyPart
        | some object => .ok object := by
  obtain ⟨hcolon, hshown⟩ := h
  have hnotblank : ¬ allBlank (typeChars text) = true := by simp [hshown]
  rw [parseChars, typeSeparator, cutAt?_singleton, if_pos hcolon]
  show (if allBlank (typeChars text) = true then _ else _) = _
  rw [if_neg hnotblank]
  simp only [partSeparator, piecesAt_eq_splitOn]
  rfl

theorem parseChars_of_not_hasParts (htype : HasType text) (h : ¬ HasParts text) :
    parseChars text = .error .emptyPart := by
  have hany : ((nameChars text).splitOn '.').any allBlank = true := by
    by_contra hnone
    apply h
    intro part hpart
    simp only [List.any_eq_true, not_exists, not_and] at hnone
    exact Bool.not_eq_true _ ▸ hnone part hpart
  rw [parseChars_of_hasType htype, if_pos hany]

/-! ### Spellings -/

/-- How an object is spelled: its type and the parts of its name, with blanks around them.  No colon
    stands in the type, and no dot in a part. -/
structure Spelling where
  objectType : Padded
  first : Padded
  others : List Padded
  colon_notMem : ':' ∉ objectType.word
  dot_notMem : ∀ part ∈ first :: others, '.' ∉ part.word

namespace Spelling

/-- The parts of the name as they are written. -/
def partChars (s : Spelling) : List (List Char) :=
  (s.first :: s.others).map Padded.chars

/-- The parts of the name. -/
def parts (s : Spelling) : List String :=
  s.first.text :: s.others.map Padded.text

/-- A spelling as it is written. -/
def chars (s : Spelling) : List Char :=
  s.objectType.chars ++ ':' :: ['.'].intercalate s.partChars

/-- The object that is spelled. -/
def object (s : Spelling) : SchemaObject where
  objectType := s.objectType.text
  schema := s.first.text
  name := s.parts.getLast (List.cons_ne_nil _ _)
  multiPartName := ",".intercalate s.parts
  containingSchema := none

theorem ofParts?_parts (s : Spelling) :
    SchemaObject.ofParts? s.objectType.text s.parts = some s.object :=
  SchemaObject.ofParts?_cons ..

/-- A name in two parts is a schema and a name. -/
theorem object_eq_ofName {s : Spelling} {schema name : String} (h : s.parts = [schema, name]) :
    s.object = .ofName s.objectType.text schema name := by
  have hparts := s.ofParts?_parts
  rw [h] at hparts
  exact (Option.some.inj hparts).symm

theorem passes_colon (s : Spelling) : ∀ c ∈ s.objectType.chars, decide (c ≠ ':') = true := by
  intro c hc
  have hcolon : ':' ∉ s.objectType.chars := by
    rw [Padded.mem_chars_iff (by decide)]
    exact s.colon_notMem
  exact decide_eq_true fun h => hcolon (h ▸ hc)

/-- The first colon is the one behind the type. -/
theorem typeChars_chars (s : Spelling) : typeChars s.chars = s.objectType.chars := by
  rw [typeChars, chars, List.takeWhile_append_of_pos s.passes_colon,
    List.takeWhile_cons_of_neg (by simp), List.append_nil]

theorem nameChars_chars (s : Spelling) : nameChars s.chars = ['.'].intercalate s.partChars := by
  rw [nameChars, chars, List.dropWhile_append_of_pos s.passes_colon,
    List.dropWhile_cons_of_neg (by simp), List.tail_cons]

/-- Cut at dots, the name gives the parts as they are written. -/
theorem splitOn_nameChars (s : Spelling) : (nameChars s.chars).splitOn '.' = s.partChars := by
  rw [nameChars_chars]
  refine List.splitOn_intercalate '.' ?_ (by simp [partChars])
  intro written hwritten
  obtain ⟨part, hpart, rfl⟩ := List.mem_map.mp hwritten
  rw [Padded.mem_chars_iff (by decide)]
  exact s.dot_notMem part hpart

theorem hasType (s : Spelling) : HasType s.chars := by
  constructor
  · simp [chars]
  · rw [typeChars_chars]
    exact s.objectType.allBlank_chars

theorem hasParts (s : Spelling) : HasParts s.chars := by
  intro written hwritten
  rw [splitOn_nameChars] at hwritten
  obtain ⟨part, -, rfl⟩ := List.mem_map.mp hwritten
  exact part.allBlank_chars

/-- Whatever has a type and parts is a spelling. -/
theorem exists_chars_eq (htype : HasType text) (hparts : HasParts text) :
    ∃ s : Spelling, s.chars = text := by
  obtain ⟨hcolon, hshown⟩ := htype
  obtain ⟨objectType, htypeChars⟩ := Padded.exists_chars_eq hshown
  have hrange : (nameChars text).splitOn '.' ∈ Set.range (List.map Padded.chars) := by
    rw [Set.range_list_map]
    exact fun part hpart => Padded.exists_chars_eq (hparts part hpart)
  obtain ⟨parts, hsplit⟩ := hrange
  have hne : parts ≠ [] := by
    rintro rfl
    exact List.splitOn_ne_nil '.' (nameChars text) hsplit.symm
  obtain ⟨first, others, rfl⟩ := List.exists_cons_of_ne_nil hne
  refine ⟨⟨objectType, first, others, ?_, ?_⟩, ?_⟩
  · rw [← Padded.mem_chars_iff (by decide), htypeChars]
    intro hmem
    exact absurd (List.mem_takeWhile_imp hmem) (by simp)
  · intro part hpart
    rw [← Padded.mem_chars_iff (by decide)]
    exact not_mem_of_mem_splitOn (hsplit ▸ List.mem_map_of_mem hpart)
  · -- What stands before the colon, the colon, and what stands behind it make up the text.
    show objectType.chars ++ ':' :: ['.'].intercalate ((first :: others).map Padded.chars) = text
    rw [htypeChars, hsplit, List.intercalate_splitOn, typeChars_append_nameChars hcolon]

/-- A spelling is read as the object that it spells. -/
theorem parseChars_chars (s : Spelling) : parseChars s.chars = .ok s.object := by
  have hnone : ¬ (s.partChars.any allBlank = true) := by
    rw [List.any_eq_true]
    rintro ⟨written, hwritten, hblank⟩
    have hshown := s.hasParts written (s.splitOn_nameChars ▸ hwritten)
    exact absurd hblank (by simp [hshown])
  have hwords : s.partChars.map (fun part => String.ofList (trim part)) = s.parts := by
    simp [partChars, parts, Padded.trim_chars, Padded.text]
  rw [parseChars_of_hasType s.hasType, splitOn_nameChars, if_neg hnone, hwords, typeChars_chars,
    Padded.trim_chars, ← Padded.text, ofParts?_parts]

end Spelling

/-! ### The grammar -/

/-- A text lacks a type, or else lacks a part, or else is a spelling. -/
theorem parseChars_cases (text : List Char) :
    (¬ HasType text ∧ parseChars text = .error .missingType) ∨
      (HasType text ∧ ¬ HasParts text ∧ parseChars text = .error .emptyPart) ∨
      (HasType text ∧ HasParts text ∧
        ∃ s : Spelling, s.chars = text ∧ parseChars text = .ok s.object) := by
  by_cases htype : HasType text
  · by_cases hparts : HasParts text
    · obtain ⟨s, rfl⟩ := Spelling.exists_chars_eq htype hparts
      exact .inr (.inr ⟨htype, hparts, s, rfl, s.parseChars_chars⟩)
    · exact .inr (.inl ⟨htype, hparts, parseChars_of_not_hasParts htype hparts⟩)
  · exact .inl ⟨htype, parseChars_of_not_hasType htype⟩

/-- A text is read as an object exactly if it is a spelling of it. -/
theorem parseChars_eq_ok_iff {object : SchemaObject} :
    parseChars text = .ok object ↔ ∃ s : Spelling, s.chars = text ∧ s.object = object := by
  constructor
  · intro h
    rcases parseChars_cases text with ⟨-, hread⟩ | ⟨-, -, hread⟩ | ⟨-, -, s, hs, hread⟩
    · exact absurd (hread.symm.trans h) (by simp)
    · exact absurd (hread.symm.trans h) (by simp)
    · exact ⟨s, hs, Except.ok.inj (hread.symm.trans h)⟩
  · rintro ⟨s, rfl, rfl⟩
    exact s.parseChars_chars

/-- An argument is labelled with the text that it is read from. -/
theorem parse_eq_ok_iff {text : String} {argument : ObjectArgument} :
    parse text = .ok argument ↔
      argument.label = text ∧ parseChars text.toList = .ok argument.object := by
  obtain ⟨label, object⟩ := argument
  rw [parse]
  cases parseChars text.toList <;> simp [eq_comm]

/-- Arguments are labelled with the texts that they are read from, in order. -/
theorem map_label_eq {texts : List String} {arguments : List ObjectArgument}
    (h : List.Forall₂ (fun text argument => parse text = .ok argument) texts arguments) :
    arguments.map (·.label) = texts := by
  induction h with
  | nil => rfl
  | cons hparse _ ih => rw [List.map_cons, ih, (parse_eq_ok_iff.mp hparse).1]

theorem parse_eq_error_iff {text : String} {kind : ObjectArgumentErrorKind} :
    parse text = .error ⟨kind, text⟩ ↔ parseChars text.toList = .error kind := by
  rw [parse]
  cases parseChars text.toList <;> simp

/-- **The grammar.**  A text is an object if and only if it has a colon, something before the first
    one, and something in each part behind it; where the first two fail, the type is missing, and
    otherwise a part is empty.  Exactly the spellings of an object are read as that object, with
    the text as its label; it is the object of its type and its parts, and of a schema and a name
    if there are two parts.  There is a part in any case. -/
theorem parse_iff_spelling :
    (∀ text : String,
      ((∃ argument, parse text = .ok argument) ↔ HasType text.toList ∧ HasParts text.toList) ∧
      (parse text = .error ⟨.missingType, text⟩ ↔ ¬ HasType text.toList) ∧
      (parse text = .error ⟨.emptyPart, text⟩ ↔
        HasType text.toList ∧ ¬ HasParts text.toList) ∧
      ∀ argument, parse text = .ok argument ↔
        ∃ s : Spelling, s.chars = text.toList ∧ argument = ⟨text, s.object⟩) ∧
    (∀ s : Spelling,
      SchemaObject.ofParts? s.objectType.text s.parts = some s.object ∧
      ∀ schema name, s.parts = [schema, name] →
        s.object = .ofName s.objectType.text schema name) ∧
    ∀ objectType name : List Char,
      SchemaObject.ofParts? (.ofList (trim objectType))
        ((piecesAt partSeparator name).map fun part => .ofList (trim part)) ≠ none := by
  refine ⟨fun text => ?_, fun s => ⟨s.ofParts?_parts, fun _ _ h => s.object_eq_ofName h⟩, ?_⟩
  · have hspelled : ∀ argument, parse text = .ok argument ↔
        ∃ s : Spelling, s.chars = text.toList ∧ argument = ⟨text, s.object⟩ := by
      rintro ⟨label, object⟩
      rw [parse_eq_ok_iff, parseChars_eq_ok_iff]
      constructor
      · rintro ⟨rfl, s, hs, rfl⟩
        exact ⟨s, hs, rfl⟩
      · rintro ⟨s, hs, hargument⟩
        obtain ⟨rfl, rfl⟩ := ObjectArgument.mk.inj hargument
        exact ⟨rfl, s, hs, rfl⟩
    have haccepted : (∃ argument, parse text = .ok argument) ↔
        ∃ object, parseChars text.toList = .ok object := by
      constructor
      · rintro ⟨argument, h⟩
        exact ⟨argument.object, (parse_eq_ok_iff.mp h).2⟩
      · rintro ⟨object, h⟩
        exact ⟨⟨text, object⟩, parse_eq_ok_iff.mpr ⟨rfl, h⟩⟩
    rw [haccepted, parse_eq_error_iff, parse_eq_error_iff]
    rcases parseChars_cases text.toList with
      ⟨htype, hread⟩ | ⟨htype, hparts, hread⟩ | ⟨htype, hparts, s, -, hread⟩
    · exact ⟨by simp [hread, htype], by simp [hread, htype], by simp [hread, htype], hspelled⟩
    · exact ⟨by simp [hread, hparts], by simp [hread, htype], by simp [hread, htype, hparts],
        hspelled⟩
    · exact ⟨by simp [hread, htype, hparts], by simp [hread, htype], by simp [hread, hparts],
        hspelled⟩
  · intro objectType name
    rw [piecesAt_eq_splitOn]
    obtain ⟨first, others, hsplit⟩ :=
      List.exists_cons_of_ne_nil (List.splitOn_ne_nil partSeparator name)
    rw [hsplit, List.map_cons, SchemaObject.ofParts?_cons]
    exact Option.some_ne_none _

/-- Only the first colon stands behind the type, and commas stand for nothing. -/
example :
    parse " Index :dbo. a:b\t.c,d" =
      .ok ⟨" Index :dbo. a:b\t.c,d", ⟨"Index", "dbo", "c,d", "dbo,a:b,c,d", none⟩⟩ := by
  decide

end ObjectArgument

end SchemaFilter
