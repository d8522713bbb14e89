import Mathlib.Logic.Basic
import SchemaFilter.Filter.FilterSet
import SchemaFilter.Proofs.Result

/-!
# Which rules make a set

A filter is its rule, together with what its pattern means.  So a set is its rules, and there is
one exactly if all their patterns are good.

* `Rule.Compiles` — the pattern of a rule is good;
* `Filter.applies_iff` — when a filter applies, by what it finds;
* `Rule.appliesTo_of_compile`, `Rule.appliesTo_of_refusal` — what a rule says of an object, if its
  pattern is good, and if it is bad;
* `FilterSet.ofRules_eq_ok_iff` — the set of some rules;
* `FilterSet.ofRules_eq_error_iff` — the first of them with a bad pattern.
-/

namespace SchemaFilter

/-- The pattern of the rule is good. -/
def Rule.Compiles (rule : Rule) : Prop :=
  ∃ expr, Pattern.compile rule.pattern = .ok expr

/-! ### Filters -/

theorem Filter.compiles (filter : Filter) : filter.rule.Compiles :=
  ⟨filter.expr, filter.compile_eq⟩

/-- A filter is determined by its rule. -/
theorem Filter.ofRule_eq_ok_iff {rule : Rule} {filter : Filter} :
    ofRule rule = .ok filter ↔ filter.rule = rule := by
  obtain ⟨rule', expr', hcompile'⟩ := filter
  unfold ofRule
  split
  · rename_i expr hcompile
    constructor
    · intro h
      exact (Filter.mk.inj (Except.ok.inj h)).1.symm
    · rintro rfl
      obtain rfl : expr = expr' := Except.ok.inj (hcompile.symm.trans hcompile')
      rfl
  · rename_i refusal hcompile
    constructor
    · intro h
      exact absurd h (by simp)
    · rintro rfl
      exact absurd (hcompile.symm.trans hcompile') (by simp)

theorem Filter.ofRule_eq_error_iff {rule : Rule} {e : FilterError} :
    ofRule rule = .error e ↔
      ∃ refusal, Pattern.compile rule.pattern = .error refusal ∧
        e = ⟨rule.pattern, refusal⟩ := by
  unfold ofRule
  split
  · rename_i expr hcompile
    simp [hcompile]
  · rename_i refusal hcompile
    constructor
    · intro h
      exact ⟨refusal, hcompile, (Except.error.inj h).symm⟩
    · rintro ⟨refusal', hcompile', rfl⟩
      rw [Except.error.inj (hcompile.symm.trans hcompile')]

/-- A rule applies where all that it looks for is found, or where it is not, but not both. -/
theorem Filter.applies_iff {filter : Filter} {object : SchemaObject} :
    filter.applies object = true ↔
      Xor (filter.finds object = true) (filter.rule.polarity = .negative) := by
  unfold applies
  cases filter.rule.polarity <;> cases filter.finds object <;> decide

theorem Rule.compiles_iff {rule : Rule} :
    rule.Compiles ↔ ∃ filter, Filter.ofRule rule = .ok filter := by
  constructor
  · rintro ⟨expr, hexpr⟩
    exact ⟨⟨rule, expr, hexpr⟩, Filter.ofRule_eq_ok_iff.mpr rfl⟩
  · rintro ⟨filter, hfilter⟩
    exact Filter.ofRule_eq_ok_iff.mp hfilter ▸ filter.compiles

namespace Rule

variable {rule : Rule}

theorem not_compiles_iff :
    ¬ rule.Compiles ↔ ∃ refusal, Pattern.compile rule.pattern = .error refusal := by
  cases h : Pattern.compile rule.pattern <;> simp [Compiles, h]

theorem appliesTo_of_compile {expr : Pattern.Expr} (h : Pattern.compile rule.pattern = .ok expr)
    (object : SchemaObject) :
    rule.appliesTo object = .ok ((Filter.mk rule expr h).applies object) := by
  have hfilter : Filter.ofRule rule = .ok ⟨rule, expr, h⟩ := Filter.ofRule_eq_ok_iff.mpr rfl
  rw [appliesTo, hfilter]
  rfl

theorem appliesTo_of_refusal {refusal : Pattern.Refusal}
    (h : Pattern.compile rule.pattern = .error refusal) (object : SchemaObject) :
    rule.appliesTo object = .error ⟨rule.pattern, refusal⟩ := by
  have hfilter : Filter.ofRule rule = .error ⟨rule.pattern, refusal⟩ :=
    Filter.ofRule_eq_error_iff.mpr ⟨refusal, h, rfl⟩
  rw [appliesTo, hfilter]
  rfl

end Rule

/-! ### Sets -/

namespace FilterSet

/-- Compiling rules is making each of them a filter, where an error names the place. -/
theorem compileFrom_eq_mapM (index : Nat) (rules : List Rule) :
    compileFrom index rules =
      (rules.zipIdx index).mapM (numbered Filter.ofRule fun place e => ⟨place, .filter e⟩) := by
  induction rules generalizing index with
  | nil => rfl
  | cons rule rules ih =>
    rw [List.zipIdx_cons, List.mapM_cons, ← ih]
    rfl

/-- Filters that are made of their rules are the filters of those rules. -/
private theorem forall₂_ofRule_iff {rules : List Rule} {filters : List Filter} :
    List.Forall₂ (fun rule filter => Filter.ofRule rule = .ok filter) rules filters ↔
      filters.map (·.rule) = rules := by
  simp only [Filter.ofRule_eq_ok_iff]
  rw [eq_comm, ← List.forall₂_eq_eq_eq, List.forall₂_map_right_iff]
  simp only [eq_comm]

/-- The set of some rules is the one that has them. -/
theorem ofRules_eq_ok_iff {rules : List Rule} {set : FilterSet} :
    ofRules rules = .ok set ↔ set.rules = rules := by
  obtain ⟨filters⟩ := set
  have hcompile : compileFrom 0 rules = .ok filters ↔ filters.map (·.rule) = rules := by
    rw [compileFrom_eq_mapM, mapM_zipIdx_eq_ok_iff, forall₂_ofRule_iff]
  rw [ofRules, FilterSet.rules, ← hcompile]
  cases compileFrom 0 rules <;> simp [Except.map]

/-- There is no set exactly if some pattern is bad, and the first such rule is blamed. -/
theorem ofRules_eq_error_iff {rules : List Rule} {e : SetError} :
    ofRules rules = .error e ↔
      ∃ before rule after refusal, rules = before ++ rule :: after ∧
        (∀ r ∈ before, r.Compiles) ∧ Pattern.compile rule.pattern = .error refusal ∧
        e = ⟨before.length, .filter ⟨rule.pattern, refusal⟩⟩ := by
  have hcompile : ofRules rules = .error e ↔ compileFrom 0 rules = .error e := by
    rw [ofRules]
    cases compileFrom 0 rules <;> simp [Except.map]
  rw [hcompile, compileFrom_eq_mapM, mapM_zipIdx_eq_error_iff]
  simp only [Nat.zero_add, ← Rule.compiles_iff, Filter.ofRule_eq_error_iff]
  constructor
  · rintro ⟨before, rule, after, cause, hsplit, hbefore, ⟨refusal, hrefusal, rfl⟩, rfl⟩
    exact ⟨before, rule, after, refusal, hsplit, hbefore, hrefusal, rfl⟩
  · rintro ⟨before, rule, after, refusal, hsplit, hbefore, hrefusal, rfl⟩
    exact ⟨before, rule, after, _, hsplit, hbefore, ⟨refusal, hrefusal, rfl⟩, rfl⟩

/-- The patterns of a set are good. -/
theorem compiles_of_mem_rules {set : FilterSet} {rule : Rule} (h : rule ∈ set.rules) :
    rule.Compiles := by
  obtain ⟨filter, -, rfl⟩ := List.mem_map.mp h
  exact filter.compiles

end FilterSet

end SchemaFilter
