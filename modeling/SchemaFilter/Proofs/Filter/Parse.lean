import SchemaFilter.Proofs.Filter.Compile

/-!
# Which texts make a set

All texts are read before any pattern is looked at.  So a text that is no rule is blamed whatever
the patterns of the others are like.

* `FilterSet.parseFrom_cons_ok`, `FilterSet.parseFrom_cons_error` — what one text more gives;
* `FilterSet.value_parseFrom` — reading texts is reading each of them, up to the first error;
* `FilterSet.parseBy` — what is read is made a set in any way;
* `FilterSet.value_parseBy_of_rules`, `FilterSet.parseBy_of_rejected` — what that gives where all
  texts are rules, and where one is none;
* `FilterSet.value_parse_eq_ok_iff` — **the set** that texts spell has the rules that they spell.
-/

namespace SchemaFilter.FilterSet

/-! ### Reading texts -/

/-- A text that is a rule is put in front of the rules behind it, where those can be read. -/
theorem parseFrom_cons_ok {raw : String} {rule : Rule} (h : Rule.parse raw = .ok rule)
    (index : Nat) (raws : List String) :
    parseFrom index (raw :: raws) =
      ⟨(parseFrom (index + 1) raws).value.map (rule :: ·),
        .ruleParsed (trimmed raw) rule :: (parseFrom (index + 1) raws).events⟩ := by
  simp only [parseFrom, Rule.parseTraced, h]
  rw [← List.append_nil (parseFrom (index + 1) raws).events]
  rfl

/-- A text that is no rule is blamed, and those behind it are not read. -/
theorem parseFrom_cons_error {raw : String} {e : ParseError} (h : Rule.parse raw = .error e)
    (index : Nat) (raws : List String) :
    parseFrom index (raw :: raws) = ⟨.error ⟨index, .parse e⟩, [.ruleRejected e]⟩ := by
  simp only [parseFrom, Rule.parseTraced, h]
  rfl

/-- Reading texts is reading each of them as a rule, where an error names the place. -/
theorem value_parseFrom (index : Nat) (raws : List String) :
    (parseFrom index raws).value =
      (raws.zipIdx index).mapM (numbered Rule.parse fun place e => ⟨place, .parse e⟩) := by
  induction raws generalizing index with
  | nil => rfl
  | cons raw raws ih =>
    rw [List.zipIdx_cons, List.mapM_cons, ← ih]
    cases h : Rule.parse raw with
    | error e =>
      rw [parseFrom_cons_error h, numbered, h]
      rfl
    | ok rule =>
      rw [parseFrom_cons_ok h, numbered, h]
      cases (parseFrom (index + 1) raws).value <;> rfl

/-! ### Sets made in any way -/

/-- Reads texts, and makes the rules that they spell a set in some way. -/
def parseBy (make : List Rule → Except SetError FilterSet) (raws : List String) :
    Traced Event (Except SetError FilterSet) :=
  ⟨(parseFrom 0 raws).value >>= make, (parseFrom 0 raws).events⟩

theorem parse_eq_parseBy (raws : List String) : parse raws = parseBy ofRules raws :=
  congrArg (Traced.mk _) (List.append_nil _)

variable {make : List Rule → Except SetError FilterSet}

/-- Where all texts are rules, the set is made of these. -/
theorem value_parseBy_of_rules {raws : List String} {rules : List Rule}
    (h : List.Forall₂ (fun raw rule => Rule.parse raw = .ok rule) raws rules) :
    (parseBy make raws).value = make rules := by
  have hrules : (parseFrom 0 raws).value = .ok rules := by
    rw [value_parseFrom, mapM_zipIdx_eq_ok_iff]
    exact h
  rw [parseBy, hrules]
  rfl

/-- Where a text is no rule, the first such text is blamed, and nothing is made of the others. -/
theorem parseBy_of_rejected {before after : List String} {raw : String} {e : ParseError}
    (hbefore : ∀ r ∈ before, ∃ rule, Rule.parse r = .ok rule) (h : Rule.parse raw = .error e) :
    parseBy make (before ++ raw :: after) =
      ⟨.error ⟨before.length, .parse e⟩, (parseFrom 0 (before ++ raw :: after)).events⟩ := by
  have hvalue : (parseFrom 0 (before ++ raw :: after)).value =
      .error ⟨before.length, .parse e⟩ := by
    rw [value_parseFrom, mapM_zipIdx_eq_error_iff]
    exact ⟨before, raw, after, e, rfl, hbefore, h, by rw [Nat.zero_add]⟩
  rw [parseBy, hvalue]
  rfl

/-- **The set.**  Texts spell a set exactly if each of them spells its rule of the set. -/
theorem value_parse_eq_ok_iff {raws : List String} {set : FilterSet} :
    (parse raws).value = .ok set ↔
      List.Forall₂ (fun raw rule => Rule.parse raw = .ok rule) raws set.rules := by
  rw [parse_eq_parseBy]
  constructor
  · intro h
    cases hread : (parseFrom 0 raws).value with
    | error e =>
      rw [parseBy, hread] at h
      exact absurd h (by simp [bind, Except.bind])
    | ok rules =>
      rw [parseBy, hread] at h
      have hrules : set.rules = rules := ofRules_eq_ok_iff.mp h
      rw [value_parseFrom, mapM_zipIdx_eq_ok_iff] at hread
      rwa [hrules]
  · intro h
    rw [value_parseBy_of_rules h, ofRules_eq_ok_iff]

end SchemaFilter.FilterSet
