import SchemaFilter.Proofs.Command.Outcome
import SchemaFilter.Proofs.Filter.Parse

/-!
# The set of the command and the set of the library

The library reads texts up to the first that is no rule, and blames it.  The command reads all of
them, and tells of every one that is none.  Yet both come to the same set, and where there is no
set, what the command tells begins with what the library blames.

* `buildSetBy` — what is read is made a set in any way;
* `exists_first_rejected`, `exists_first_bad_pattern` — the text, and the rule, that is blamed;
* `buildSetBy_of_rejected`, `buildSetBy_of_rules` — the command, by what the texts are;
* `buildSet_agrees_parse` — **agreement** of the command and the library.
-/

namespace SchemaFilter.Command

/-! ### What is blamed -/

/-- Where some text is rejected, there is a first one. -/
theorem exists_first_rejected {raws : List String} (h : rejections raws ≠ []) :
    ∃ before raw after e, raws = before ++ raw :: after ∧
      (∀ r ∈ before, ∃ rule, Rule.parse r = .ok rule) ∧ Rule.parse raw = .error e := by
  cases hmap : raws.mapM Rule.parse with
  | ok rules => exact absurd (rejections_eq_nil_iff.mpr (exists_mapM_eq_ok_iff.mp ⟨rules, hmap⟩)) h
  | error e =>
    obtain ⟨before, raw, after, hsplit, hbefore, he⟩ := mapM_eq_error_iff.mp hmap
    exact ⟨before, raw, after, e, hsplit, hbefore, he⟩

/-- Where some pattern is bad, there is a first one. -/
theorem exists_first_bad_pattern {rules : List Rule} (h : ∃ rule ∈ rules, ¬ rule.Compiles) :
    ∃ before rule after refusal, rules = before ++ rule :: after ∧
      (∀ r ∈ before, r.Compiles) ∧ Pattern.compile rule.pattern = .error refusal ∧
      FilterSet.ofRules rules = .error ⟨before.length, .filter ⟨rule.pattern, refusal⟩⟩ := by
  obtain ⟨bad, hbad, hcompile⟩ := h
  cases hset : FilterSet.ofRules rules with
  | ok set =>
    rw [← FilterSet.ofRules_eq_ok_iff.mp hset] at hbad
    exact absurd (FilterSet.compiles_of_mem_rules hbad) hcompile
  | error e =>
    obtain ⟨before, rule, after, refusal, hsplit, hbefore, hrefusal, rfl⟩ :=
      FilterSet.ofRules_eq_error_iff.mp hset
    exact ⟨before, rule, after, refusal, hsplit, hbefore, hrefusal, rfl⟩

/-! ### The command -/

/-- Reads rules, and makes them a set in some way. -/
def buildSetBy (make : List Rule → Except SetError FilterSet) (raws : List String) :
    Work FilterSet := do
  let rules ← readRules raws
  Work.orGiveUp SetError.message (make rules)

theorem buildSet_eq_buildSetBy (raws : List String) :
    buildSet raws = buildSetBy FilterSet.ofRules raws := rfl

variable (make : List Rule → Except SetError FilterSet) {raws : List String}

/-- Where a text is rejected, the command gives up once it has read all of them, and nothing is
    made of the others. -/
theorem buildSetBy_of_rejected (h : rejections raws ≠ []) :
    (buildSetBy make raws).run = ⟨none, (readRules raws).run.events⟩ := by
  obtain ⟨before, raw, after, e, hsplit, hbefore, he⟩ := exists_first_rejected h
  have hmap : raws.mapM Rule.parse = .error e :=
    mapM_eq_error_iff.mpr ⟨before, raw, after, hsplit, hbefore, he⟩
  have hvalue := (readRules_run raws).1
  rw [hmap] at hvalue
  exact Work.run_bind_of_none hvalue

/-- Where all texts are rules, the command makes a set of them, or tells why there is none. -/
theorem buildSetBy_of_rules {rules : List Rule}
    (h : List.Forall₂ (fun raw rule => Rule.parse raw = .ok rule) raws rules) :
    (buildSetBy make raws).run.value = (make rules).toOption ∧
      diagnosticText (buildSetBy make raws).run.events =
        match make rules with
        | .ok _ => ""
        | .error e => Work.errorLine e.message := by
  have hmap : raws.mapM Rule.parse = .ok rules := mapM_eq_ok_iff.mpr h
  obtain ⟨hvalue, htext⟩ := readRules_run raws
  have hnone : rejections raws = [] :=
    rejections_eq_nil_iff.mpr (exists_mapM_eq_ok_iff.mp ⟨rules, hmap⟩)
  rw [hmap] at hvalue
  have hrun : (buildSetBy make raws).run = _ := Work.run_bind_of_some hvalue
  rw [hrun, diagnosticText_append, htext, rejectionText, hnone]
  -- Nothing has been told so far, so that all that is told is told of the set.
  cases make rules with
  | ok set => exact ⟨rfl, rfl⟩
  | error e => exact ⟨rfl, (String.empty_append).trans (diagnosticText_diagnostic _)⟩

/-! ### Agreement -/

/-- Both come to the same sets. -/
private theorem value_buildSet_eq_some_iff {set : FilterSet} :
    (buildSet raws).run.value = some set ↔ (FilterSet.parse raws).value = .ok set := by
  rw [buildSet_eq_buildSetBy, FilterSet.parse_eq_parseBy]
  by_cases h : rejections raws = []
  · obtain ⟨rules, hmap⟩ := exists_mapM_eq_ok_iff.mpr (rejections_eq_nil_iff.mp h)
    have hrules := mapM_eq_ok_iff.mp hmap
    rw [(buildSetBy_of_rules _ hrules).1, FilterSet.value_parseBy_of_rules hrules]
    cases FilterSet.ofRules rules <;> simp [Except.toOption]
  · obtain ⟨before, raw, after, e, rfl, hbefore, he⟩ := exists_first_rejected h
    rw [buildSetBy_of_rejected _ h, FilterSet.parseBy_of_rejected hbefore he]
    simp

/-- A set that the command comes to has the rules that the texts are read as. -/
private theorem buildSet_meets_reads (raws : List String) :
    (buildSet raws).Meets
      (fun set => List.Forall₂ (fun raw rule => Rule.parse raw = .ok rule) raws set.rules)
      (fun _ => True) := by
  have hread := (readRules_meets raws).mono (fun _ h => h) fun _ _ => trivial
  refine hread.bind fun rules hrules => .orGiveUp (fun set hset => ?_) fun _ _ => trivial
  rw [FilterSet.ofRules_eq_ok_iff.mp hset]
  exact hrules

/-- **Agreement.**  The command and the library come to the same set of the same rules, and then
    the command tells its user nothing.  If some texts are rejected, the command tells of all of
    these, the library blames the first, and neither looks at a pattern: anything else could be
    made of the other texts.  If all texts are rules and some pattern is bad, both blame the first
    bad one. -/
theorem buildSet_agrees_parse (raws : List String) :
    (∀ set, (buildSet raws).run.value = some set ↔ (FilterSet.parse raws).value = .ok set) ∧
    (∀ set, (buildSet raws).run.value = some set →
      List.Forall₂ (fun raw rule => Rule.parse raw = .ok rule) raws set.rules ∧
      diagnosticText (buildSet raws).run.events = "") ∧
    (rejections raws ≠ [] →
      (buildSet raws).run.value = none ∧
      diagnosticText (buildSet raws).run.events = rejectionText raws ∧
      (∀ make, (buildSetBy make raws).run = (buildSet raws).run ∧
        FilterSet.parseBy make raws = FilterSet.parse raws) ∧
      ∃ before raw after e, raws = before ++ raw :: after ∧
        (∀ r ∈ before, ∃ rule, Rule.parse r = .ok rule) ∧ Rule.parse raw = .error e ∧
        (FilterSet.parse raws).value = .error ⟨before.length, .parse e⟩) ∧
    (∀ rules, List.Forall₂ (fun raw rule => Rule.parse raw = .ok rule) raws rules →
      (∃ rule ∈ rules, ¬ rule.Compiles) →
      ∃ before rule after refusal, rules = before ++ rule :: after ∧
        (∀ r ∈ before, r.Compiles) ∧ Pattern.compile rule.pattern = .error refusal ∧
        let e : SetError := ⟨before.length, .filter ⟨rule.pattern, refusal⟩⟩
        FilterSet.ofRules rules = .error e ∧ (FilterSet.parse raws).value = .error e ∧
        (buildSet raws).run.value = none ∧
        diagnosticText (buildSet raws).run.events = Work.errorLine e.message) := by
  refine ⟨fun set => value_buildSet_eq_some_iff, ?_, ?_, ?_⟩
  · intro set hset
    have hmeets := buildSet_meets_reads raws
    rw [Work.Meets, hset] at hmeets
    exact hmeets
  · intro h
    have hrun : (buildSet raws).run = ⟨none, (readRules raws).run.events⟩ :=
      buildSetBy_of_rejected _ h
    obtain ⟨before, raw, after, e, hsplit, hbefore, he⟩ := exists_first_rejected h
    rw [hrun]
    refine ⟨rfl, (readRules_run raws).2, fun make => ⟨buildSetBy_of_rejected _ h, ?_⟩,
      before, raw, after, e, hsplit, hbefore, he, ?_⟩
    · rw [FilterSet.parse_eq_parseBy, hsplit, FilterSet.parseBy_of_rejected hbefore he,
        FilterSet.parseBy_of_rejected hbefore he]
    · rw [FilterSet.parse_eq_parseBy, hsplit, FilterSet.parseBy_of_rejected hbefore he]
  · intro rules hrules hbad
    obtain ⟨before, rule, after, refusal, hsplit, hbefore, hrefusal, hset⟩ :=
      exists_first_bad_pattern hbad
    obtain ⟨hvalue, htext⟩ := buildSetBy_of_rules FilterSet.ofRules hrules
    refine ⟨before, rule, after, refusal, hsplit, hbefore, hrefusal, hset, ?_, ?_, ?_⟩
    · rw [FilterSet.parse_eq_parseBy, FilterSet.value_parseBy_of_rules hrules, hset]
    · rw [buildSet_eq_buildSetBy, hvalue, hset]
      rfl
    · rw [buildSet_eq_buildSetBy, htext, hset]

end SchemaFilter.Command
