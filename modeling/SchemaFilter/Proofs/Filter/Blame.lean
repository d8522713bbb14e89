import Mathlib.Order.Bounds.Basic
import SchemaFilter.Proofs.Filter.Parse

/-!
# Which text is blamed

Where texts do not make a set, one of them is blamed, by its place.  It is one that makes no set on
its own either, and what is wrong with it is the same.  But all texts are read before any pattern is
looked at.  So it is the first text that is no rule, even if a rule before it has a bad pattern.

* `places` — where in a list the members with some property stand;
* `IsRule`, `HasBadPattern`, `IsRejected` — a text that is a rule, one whose pattern is bad, and one
  that makes no set on its own;
* `blamed_of_value_parse` — the text that is blamed, by what the texts are;
* `parse_blames` — **the blame**, and when the first text that is rejected has it.
-/

namespace SchemaFilter

variable {α β : Type}

/-! ### Places -/

/-- The places in a list where members with some property stand. -/
def places (p : α → Prop) (as : List α) : Set Nat :=
  {i | ∃ a, as[i]? = some a ∧ p a}

theorem mem_places {p : α → Prop} {as : List α} {i : Nat} :
    i ∈ places p as ↔ ∃ a, as[i]? = some a ∧ p a :=
  Iff.rfl

/-- The first place is behind those members that do not have the property. -/
theorem isLeast_places {p : α → Prop} {before after : List α} {a : α}
    (hbefore : ∀ x ∈ before, ¬ p x) (ha : p a) :
    IsLeast (places p (before ++ a :: after)) before.length := by
  refine ⟨⟨a, by simp, ha⟩, ?_⟩
  rintro i ⟨x, hx, hpx⟩
  by_contra hlt
  rw [List.getElem?_append_left (by omega)] at hx
  exact hbefore x (List.mem_of_getElem? hx) hpx

/-- Members that belong together stand in the same places. -/
theorem places_congr {p : α → Prop} {q : β → Prop} {r : α → β → Prop} {as : List α} {bs : List β}
    (h : List.Forall₂ r as bs) (hpq : ∀ a b, r a b → (p a ↔ q b)) : places p as = places q bs := by
  ext i
  rw [mem_places, mem_places]
  induction h generalizing i with
  | nil => simp
  | cons hab _ ih =>
    cases i with
    | zero => simpa using hpq _ _ hab
    | succ i => simpa using ih i

namespace FilterSet

/-! ### Texts on their own -/

/-- The text is a rule. -/
def IsRule (raw : String) : Prop :=
  ∃ rule, Rule.parse raw = .ok rule

/-- The text is a rule, and its pattern is bad. -/
def HasBadPattern (raw : String) : Prop :=
  ∃ rule, Rule.parse raw = .ok rule ∧ ¬ rule.Compiles

/-- The text makes no set on its own. -/
def IsRejected (raw : String) : Prop :=
  ∃ e, (parse [raw]).value = .error e

theorem not_isRule_iff {raw : String} : ¬ IsRule raw ↔ ∃ cause, Rule.parse raw = .error cause := by
  cases h : Rule.parse raw <;> simp [IsRule, h]

/-- What is no rule is blamed on its own. -/
theorem value_parse_singleton_of_error {raw : String} {cause : ParseError}
    (h : Rule.parse raw = .error cause) : (parse [raw]).value = .error ⟨0, .parse cause⟩ := by
  have hblamed : (parseBy ofRules ([] ++ raw :: [])).value = .error ⟨0, .parse cause⟩ :=
    congrArg Traced.value (parseBy_of_rejected (fun _ hr => absurd hr List.not_mem_nil) h)
  rw [parse_eq_parseBy]
  exact hblamed

/-- A rule with a bad pattern is blamed on its own. -/
theorem value_parse_singleton_of_refusal {raw : String} {rule : Rule} {refusal : Pattern.Refusal}
    (h : Rule.parse raw = .ok rule) (hrefusal : Pattern.compile rule.pattern = .error refusal) :
    (parse [raw]).value = .error ⟨0, .filter ⟨rule.pattern, refusal⟩⟩ := by
  rw [parse_eq_parseBy, value_parseBy_of_rules (.cons h .nil), ofRules_eq_error_iff]
  exact ⟨[], rule, [], refusal, rfl, fun _ hr => absurd hr List.not_mem_nil, hrefusal, rfl⟩

/-- A text makes no set on its own exactly if it is no rule, or has a bad pattern. -/
theorem isRejected_iff {raw : String} : IsRejected raw ↔ ¬ IsRule raw ∨ HasBadPattern raw := by
  cases h : Rule.parse raw with
  | error cause =>
    have hrule : ¬ IsRule raw := not_isRule_iff.mpr ⟨cause, h⟩
    exact iff_of_true ⟨_, value_parse_singleton_of_error h⟩ (.inl hrule)
  | ok rule =>
    have hrule : IsRule raw := ⟨rule, h⟩
    have hpattern : HasBadPattern raw ↔ ¬ rule.Compiles := by simp [HasBadPattern, h]
    rw [hpattern, or_iff_right (not_not_intro hrule)]
    by_cases hcompiles : rule.Compiles
    · obtain ⟨expr, hexpr⟩ := hcompiles
      have hset : (parse [raw]).value = .ok ⟨[⟨rule, expr, hexpr⟩]⟩ :=
        value_parse_eq_ok_iff.mpr (.cons h .nil)
      refine iff_of_false ?_ (not_not_intro ⟨expr, hexpr⟩)
      rintro ⟨e, he⟩
      exact absurd (he.symm.trans hset) (by simp)
    · obtain ⟨refusal, hrefusal⟩ := Rule.not_compiles_iff.mp hcompiles
      exact iff_of_true ⟨_, value_parse_singleton_of_refusal h hrefusal⟩ hcompiles

/-! ### Texts among others -/

/-- What is blamed is the first text that is no rule, or the first bad pattern if all texts are
    rules; and what is wrong with it is wrong with it on its own. -/
theorem blamed_of_value_parse {raws : List String} {e : SetError}
    (h : (parse raws).value = .error e) :
    e.index ∈ places (fun raw => (parse [raw]).value = .error { e with index := 0 }) raws ∧
      (IsLeast (places (¬ IsRule ·) raws) e.index ∨
        (∀ raw ∈ raws, IsRule raw) ∧ IsLeast (places HasBadPattern raws) e.index) := by
  rw [parse_eq_parseBy] at h
  cases hread : raws.mapM Rule.parse with
  | error cause =>
    obtain ⟨before, raw, after, rfl, hbefore, hcause⟩ := mapM_eq_error_iff.mp hread
    rw [parseBy_of_rejected hbefore hcause] at h
    obtain rfl := Except.error.inj h
    refine ⟨⟨raw, by simp, value_parse_singleton_of_error hcause⟩, .inl ?_⟩
    exact isLeast_places (fun r hr => not_not_intro (hbefore r hr)) (not_isRule_iff.mpr ⟨_, hcause⟩)
  | ok rules =>
    have hrules := mapM_eq_ok_iff.mp hread
    rw [value_parseBy_of_rules hrules] at h
    obtain ⟨before, rule, after, refusal, rfl, hbefore, hrefusal, rfl⟩ := ofRules_eq_error_iff.mp h
    -- The rule that is blamed is the one that the text in its place spells.
    have hspelled : places (Rule.parse · = .ok rule) raws =
        places (· = rule) (before ++ rule :: after) :=
      places_congr hrules fun raw r hr => by rw [hr, Except.ok.injEq]
    have hplace : before.length ∈ places (Rule.parse · = .ok rule) raws := by
      rw [hspelled]
      exact ⟨rule, by simp, rfl⟩
    have hpatterns : places HasBadPattern raws =
        places (fun r => ¬ r.Compiles) (before ++ rule :: after) :=
      places_congr hrules fun raw r hr => by simp [HasBadPattern, hr]
    obtain ⟨raw, hraw, hparse⟩ := hplace
    refine ⟨⟨raw, hraw, value_parse_singleton_of_refusal hparse hrefusal⟩,
      .inr ⟨exists_mapM_eq_ok_iff.mp ⟨_, hread⟩, ?_⟩⟩
    rw [hpatterns]
    exact isLeast_places (fun r hr => not_not_intro (hbefore r hr))
      (Rule.not_compiles_iff.mpr ⟨refusal, hrefusal⟩)

/-- A text is rejected in the place of one that is no rule, or of a bad pattern. -/
theorem mem_places_isRejected_iff {raws : List String} {i : Nat} :
    i ∈ places IsRejected raws ↔
      i ∈ places (¬ IsRule ·) raws ∨ i ∈ places HasBadPattern raws := by
  simp only [mem_places, isRejected_iff]
  rw [← exists_or]
  exact exists_congr fun raw => and_or_left

/-- No text is both, no rule and a rule with a bad pattern. -/
theorem ne_of_mem_places {raws : List String} {i j : Nat} (hi : i ∈ places HasBadPattern raws)
    (hj : j ∈ places (¬ IsRule ·) raws) : i ≠ j := by
  rintro rfl
  obtain ⟨raw, hraw, rule, hparse, -⟩ := hi
  obtain ⟨raw', hraw', hnot⟩ := hj
  obtain rfl : raw = raw' := Option.some.inj (hraw.symm.trans hraw')
  exact hnot ⟨rule, hparse⟩

/-- **The blame.**  Where texts do not make a set, the blame is on a text that makes no set on its
    own, for the same reason.  It is on the first that is no rule, or on the first bad pattern if
    all are rules.  So it is on the first text that makes no set on its own if and only if all texts
    are rules, or each bad pattern stands behind a text that is no rule. -/
theorem parse_blames {raws : List String} {e : SetError} (h : (parse raws).value = .error e) :
    (∃ raw, raws[e.index]? = some raw ∧ (parse [raw]).value = .error { e with index := 0 }) ∧
      (IsLeast (places (¬ IsRule ·) raws) e.index ∨
        (∀ raw ∈ raws, IsRule raw) ∧ IsLeast (places HasBadPattern raws) e.index) ∧
      (IsLeast (places IsRejected raws) e.index ↔
        (∀ raw ∈ raws, IsRule raw) ∨
          ∀ i ∈ places HasBadPattern raws, ∃ j ∈ places (¬ IsRule ·) raws, j < i) := by
  obtain ⟨halone, hblamed⟩ := blamed_of_value_parse h
  refine ⟨halone, hblamed, ?_, ?_⟩
  · intro hleast
    rcases hblamed with hfirst | ⟨hall, -⟩
    · right
      intro i hi
      have hle : e.index ≤ i := hleast.2 (mem_places_isRejected_iff.mpr (.inr hi))
      exact ⟨e.index, hfirst.1, lt_of_le_of_ne hle (ne_of_mem_places hi hfirst.1).symm⟩
    · exact .inl hall
  · intro hbehind
    obtain ⟨raw, hraw, hrejected⟩ := halone
    refine ⟨⟨raw, hraw, _, hrejected⟩, fun i hi => ?_⟩
    rcases hblamed with hfirst | ⟨hall, hbad⟩
    · rcases mem_places_isRejected_iff.mp hi with hi | hi
      · exact hfirst.2 hi
      · -- What stands before this bad pattern is not before the first text that is no rule.
        rcases hbehind with hall | hbehind
        · obtain ⟨r, hr, hnot⟩ := hfirst.1
          exact absurd (hall r (List.mem_of_getElem? hr)) hnot
        · obtain ⟨j, hj, hlt⟩ := hbehind i hi
          exact (hfirst.2 hj).trans hlt.le
    · rcases mem_places_isRejected_iff.mp hi with ⟨r, hr, hnot⟩ | hi
      · exact absurd (hall r (List.mem_of_getElem? hr)) hnot
      · exact hbad.2 hi

/-- Two bad patterns behind a good one. -/
theorem parse_blames_of_rules :
    let raws := ["KeepName(x)", "KeepName([)", "IgnoreName(()"]
    (parse raws).value = .error ⟨1, .filter ⟨"[", .defect ⟨.classUnclosed, ⟨0, 1⟩⟩⟩⟩ ∧
      IsLeast (places IsRejected raws) 1 := by
  intro raws
  have herror : (parse raws).value =
      .error ⟨1, .filter ⟨"[", .defect ⟨.classUnclosed, ⟨0, 1⟩⟩⟩⟩ := rfl
  have hall : ∀ raw ∈ raws, IsRule raw := exists_mapM_eq_ok_iff.mp ⟨_, rfl⟩
  obtain ⟨-, -, hfirst⟩ := parse_blames herror
  exact ⟨herror, hfirst.mpr (.inl hall)⟩

/-- A bad pattern, and behind it a text that is no rule, which is blamed. -/
theorem parse_blames_later :
    let raws := ["KeepName([)", "KeepColumn(x)"]
    (parse raws).value = .error ⟨1, .parse ⟨.unknownSubject, "KeepColumn(x)", "Column"⟩⟩ ∧
      (parse ["KeepName([)"]).value =
        .error ⟨0, .filter ⟨"[", .defect ⟨.classUnclosed, ⟨0, 1⟩⟩⟩⟩ ∧
      ¬ IsLeast (places IsRejected raws) 1 := by
  intro raws
  have hfirst : (parse ["KeepName([)"]).value =
      .error ⟨0, .filter ⟨"[", .defect ⟨.classUnclosed, ⟨0, 1⟩⟩⟩⟩ := rfl
  refine ⟨rfl, hfirst, fun hleast => ?_⟩
  have hle : 1 ≤ 0 := hleast.2 ⟨"KeepName([)", rfl, _, hfirst⟩
  omega

end FilterSet

end SchemaFilter
