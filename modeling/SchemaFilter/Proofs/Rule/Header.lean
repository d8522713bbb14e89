import SchemaFilter.Proofs.Text.Pieces
import SchemaFilter.Rule.Parse

/-!
# The header of a rule

What stands before the parenthesis of a rule can be read in one way only: no keyword is the
beginning of another, and a keyword must not run on into a longer word.

* `takeOperation?_eq_some_iff`, `takeSubject?_eq_some_iff`, `takePolarity_eq_iff` — each part of
  the header by how it is written;
* `BeginsWithOperation`, `BeginsWithSubject` — the texts where a part is found;
* `Header` — the three parts together, and `Header.chars_append_inj`, that they can be told apart
  from what follows.
-/

namespace SchemaFilter

variable {α β : Type}

/-- A search through everything that there is finds what some member gives, together with that
    member, if no other gives something too. -/
private theorem findSome?_pair_eq_some_iff {f : α → Option β} {l : List α} (hall : ∀ a, a ∈ l)
    (hunique : ∀ {a a' b b'}, f a = some b → f a' = some b' → a = a') {a : α} {b : β} :
    l.findSome? (fun a => (f a).map (a, ·)) = some (a, b) ↔ f a = some b := by
  have hgiven {a : α} {p : α × β} (h : (f a).map (a, ·) = some p) : f p.1 = some p.2 := by
    obtain ⟨b, hb, rfl⟩ := Option.map_eq_some_iff.mp h
    exact hb
  constructor
  · intro h
    obtain ⟨a', -, ha'⟩ := List.exists_of_findSome?_eq_some h
    exact hgiven ha'
  · intro h
    cases hfound : l.findSome? (fun a => (f a).map (a, ·)) with
    | none =>
      have hnone := List.findSome?_eq_none_iff.mp hfound a (hall a)
      rw [h] at hnone
      exact absurd hnone (by simp)
    | some p =>
      -- The search may have stopped at another member, but no other gives anything.
      obtain ⟨a', -, ha'⟩ := List.exists_of_findSome?_eq_some hfound
      have hp : f p.1 = some p.2 := hgiven ha'
      obtain rfl : a = p.1 := hunique h hp
      rw [h, Option.some.injEq] at hp
      rw [hp]

/-! ### Keywords -/

theorem Operation.mem_all (operation : Operation) : operation ∈ all := by
  cases operation <;> decide

/-- No keyword of an operation is the beginning of another. -/
theorem Operation.eq_of_keyword_isPrefix {a b : Operation}
    (h : a.keyword.toList <+: b.keyword.toList) : a = b := by
  revert h
  cases a <;> cases b <;> decide

theorem Subject.mem_byKeywordLength (subject : Subject) : subject ∈ byKeywordLength := by
  cases subject <;> decide

/-- No keyword of a subject is the beginning of another. -/
theorem Subject.eq_of_keyword_isPrefix {a b : Subject}
    (h : a.keyword.toList <+: b.keyword.toList) : a = b := by
  revert h
  cases a <;> cases b <;> decide

/-- Where no keyword is the beginning of another, a text begins with one of them at most. -/
private theorem eq_of_keyword_append_eq {keyword : α → String}
    (hkeyword : ∀ {a b}, (keyword a).toList <+: (keyword b).toList → a = b) {a b : α}
    {text rest rest' : List Char} (ha : text = (keyword a).toList ++ rest)
    (hb : text = (keyword b).toList ++ rest') : a = b := by
  have ha' : (keyword a).toList <+: text := ⟨rest, ha.symm⟩
  have hb' : (keyword b).toList <+: text := ⟨rest', hb.symm⟩
  rcases List.prefix_or_prefix_of_prefix ha' hb' with h | h
  · exact hkeyword h
  · exact (hkeyword h).symm

namespace Rule

/-! ### The operation -/

/-- The text begins with the keyword of an operation. -/
def BeginsWithOperation (text : List Char) : Prop :=
  ∃ operation : Operation, operation.keyword.toList <+: text

/-- An operation is taken exactly if its keyword stands there. -/
theorem takeOperation?_eq_some_iff {text rest : List Char} {operation : Operation} :
    takeOperation? text = some (operation, rest) ↔
      text = operation.keyword.toList ++ rest := by
  rw [takeOperation?, findSome?_pair_eq_some_iff Operation.mem_all]
  · exact stripPrefix?_eq_some_iff
  · intro a b resta restb ha hb
    exact eq_of_keyword_append_eq Operation.eq_of_keyword_isPrefix
      (stripPrefix?_eq_some_iff.mp ha) (stripPrefix?_eq_some_iff.mp hb)

@[simp] theorem takeOperation?_append (operation : Operation) (rest : List Char) :
    takeOperation? (operation.keyword.toList ++ rest) = some (operation, rest) :=
  takeOperation?_eq_some_iff.mpr rfl

theorem takeOperation?_eq_none_iff {text : List Char} :
    takeOperation? text = none ↔ ¬ BeginsWithOperation text := by
  rw [Option.eq_none_iff_forall_ne_some]
  constructor
  · rintro h ⟨operation, rest, rfl⟩
    exact h (operation, rest) (takeOperation?_append operation rest)
  · rintro h ⟨operation, rest⟩ htaken
    exact h ⟨operation, rest, (takeOperation?_eq_some_iff.mp htaken).symm⟩

/-! ### The subject -/

/-- The text does not begin with a character of a word. -/
def EndsWord (text : List Char) : Prop :=
  ∀ c ∈ text.head?, isWordChar c = false

theorem continuesWord_eq_false_iff {text : List Char} :
    continuesWord text = false ↔ EndsWord text := by
  cases text <;> simp [continuesWord, EndsWord]

/-- The text begins with the keyword of a subject, as a word of its own. -/
def BeginsWithSubject (text : List Char) : Prop :=
  ∃ (subject : Subject) (rest : List Char),
    text = subject.keyword.toList ++ rest ∧ EndsWord rest

/-- What one subject gives in the search of `takeSubject?`. -/
private theorem takenSubject_eq_some_iff {text rest : List Char} {subject : Subject} :
    (stripPrefix? subject.keyword.toList text).filter (!continuesWord ·) = some rest ↔
      text = subject.keyword.toList ++ rest ∧ EndsWord rest := by
  rw [Option.filter_eq_some_iff, stripPrefix?_eq_some_iff, Bool.not_eq_true',
    continuesWord_eq_false_iff]

/-- A subject is taken exactly if its keyword stands there and the word ends with it. -/
theorem takeSubject?_eq_some_iff {text rest : List Char} {subject : Subject} :
    takeSubject? text = some (subject, rest) ↔
      text = subject.keyword.toList ++ rest ∧ EndsWord rest := by
  rw [takeSubject?, findSome?_pair_eq_some_iff Subject.mem_byKeywordLength]
  · exact takenSubject_eq_some_iff
  · intro a b resta restb ha hb
    exact eq_of_keyword_append_eq Subject.eq_of_keyword_isPrefix
      (takenSubject_eq_some_iff.mp ha).1 (takenSubject_eq_some_iff.mp hb).1

theorem takeSubject?_append (subject : Subject) {rest : List Char} (hrest : EndsWord rest) :
    takeSubject? (subject.keyword.toList ++ rest) = some (subject, rest) :=
  takeSubject?_eq_some_iff.mpr ⟨rfl, hrest⟩

theorem takeSubject?_eq_none_iff {text : List Char} :
    takeSubject? text = none ↔ ¬ BeginsWithSubject text := by
  rw [Option.eq_none_iff_forall_ne_some]
  constructor
  · rintro h ⟨subject, rest, rfl, hrest⟩
    exact h (subject, rest) (takeSubject?_append subject hrest)
  · rintro h ⟨subject, rest⟩ htaken
    exact h ⟨subject, rest, takeSubject?_eq_some_iff.mp htaken⟩

/-! ### The polarity -/

/-- A polarity is taken exactly if its mark stands there; a positive rule has none, so that what
    follows must not begin with one. -/
theorem takePolarity_eq_iff {text rest : List Char} {polarity : Polarity} :
    takePolarity text = (polarity, rest) ↔
      text = polarity.mark ++ rest ∧ (polarity = .positive → rest.head? ≠ some '!') := by
  unfold takePolarity
  split
  · rename_i tail
    cases polarity with
    | positive =>
      constructor
      · intro h
        exact absurd (Prod.mk.inj h).1 (by simp)
      · rintro ⟨rfl, h⟩
        exact absurd rfl (h rfl)
    | negative => simp [Polarity.mark]
  · rename_i hmark
    cases polarity with
    | positive =>
      constructor
      · intro h
        obtain ⟨-, rfl⟩ := Prod.mk.inj h
        refine ⟨rfl, fun _ hhead => ?_⟩
        obtain ⟨tail, htail⟩ := List.head?_eq_some_iff.mp hhead
        exact hmark tail htail
      · rintro ⟨rfl, -⟩
        rfl
    | negative =>
      constructor
      · intro h
        exact absurd (Prod.mk.inj h).1 (by simp)
      · rintro ⟨rfl, -⟩
        exact absurd rfl (hmark rest)

/-! ### The header -/

/-- What stands before the parenthesis of a rule. -/
structure Header where
  operation : Operation
  declared : Subject
  polarity : Polarity
  deriving DecidableEq, Repr

/-- A header as it is written. -/
def Header.chars (header : Header) : List Char :=
  header.operation.keyword.toList ++
    (header.declared.keyword.toList ++ header.polarity.mark)

/-- There is no parenthesis in a header. -/
theorem Header.paren_notMem_chars (header : Header) : '(' ∉ header.chars := by
  obtain ⟨operation, declared, polarity⟩ := header
  cases operation <;> cases declared <;> cases polarity <;> decide

/-- The text can follow a header without being taken for a part of it. -/
def Header.EndsBefore (header : Header) (rest : List Char) : Prop :=
  EndsWord (header.polarity.mark ++ rest) ∧
    (header.polarity = .positive → rest.head? ≠ some '!')

/-- A parenthesis ends every header. -/
theorem Header.endsBefore_paren (header : Header) (rest : List Char) :
    header.EndsBefore ('(' :: rest) := by
  constructor
  · intro c hc
    obtain ⟨operation, declared, polarity⟩ := header
    cases polarity with
    | positive =>
      obtain rfl : '(' = c := by simpa [Polarity.mark] using hc
      decide
    | negative =>
      obtain rfl : '!' = c := by simpa [Polarity.mark] using hc
      decide
  · simp

/-- Headers, each with something behind it that is no part of it, can be told apart. -/
theorem Header.chars_append_inj {h₁ h₂ : Header} {rest₁ rest₂ : List Char}
    (end₁ : h₁.EndsBefore rest₁) (end₂ : h₂.EndsBefore rest₂)
    (heq : h₁.chars ++ rest₁ = h₂.chars ++ rest₂) : h₁ = h₂ ∧ rest₁ = rest₂ := by
  obtain ⟨op₁, declared₁, polarity₁⟩ := h₁
  obtain ⟨op₂, declared₂, polarity₂⟩ := h₂
  simp only [Header.chars, List.append_assoc] at heq
  -- What is taken from equal texts is equal, and so is what is left for the next part.
  have hop := takeOperation?_append op₁ (declared₁.keyword.toList ++ (polarity₁.mark ++ rest₁))
  rw [heq, takeOperation?_append, Option.some.injEq, Prod.mk.injEq] at hop
  obtain ⟨rfl, htail⟩ := hop
  have hsubject := takeSubject?_append declared₁ end₁.1
  rw [← htail, takeSubject?_append declared₂ end₂.1, Option.some.injEq, Prod.mk.injEq] at hsubject
  obtain ⟨rfl, hmark⟩ := hsubject
  have hpolarity := takePolarity_eq_iff.mpr ⟨rfl, end₁.2⟩
  rw [← hmark, takePolarity_eq_iff.mpr ⟨rfl, end₂.2⟩, Prod.mk.injEq] at hpolarity
  obtain ⟨rfl, hrest⟩ := hpolarity
  exact ⟨rfl, hrest.symm⟩

end Rule

end SchemaFilter
