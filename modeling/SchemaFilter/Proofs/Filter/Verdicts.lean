import SchemaFilter.Command.Listing
import SchemaFilter.Proofs.Filter.Parse

/-!
# Each rule and each object on its own

What a rule of a set says of an object depends on that rule and that object only.  The other rules
give the verdict its place, and the other objects make no difference at all.

* `FilterSet.verdictsFrom_cons` — what one filter more gives, and tells;
* `FilterSet.verdicts_eq_mapIdx` — the verdicts of a set, one for each filter;
  `FilterSet.events_verdictsTraced`, what observers are told of them;
* `FilterSet.append` — a set with the filters of another behind its own;
* `FilterSet.ofRules_append_of_ok` and its neighbours — the set of rules with others behind them;
* `SaysEachAlone` — verdicts that are those of each rule alone;
* `FilterSet.reports_eq_map` — the reports of the command, one for each object;
* `verdicts_independent` — **independence** of other rules and objects.
-/

namespace SchemaFilter

/-! ### Verdicts, one by one -/

namespace FilterSet

/-- What one filter more gives, and what observers are told of it. -/
theorem verdictsFrom_cons (object : SchemaObject) (index : Nat) (filter : Filter)
    (filters : List Filter) :
    verdictsFrom object index (filter :: filters) =
      ⟨⟨index, filter.rule, filter.applies object⟩ ::
          (verdictsFrom object (index + 1) filters).value,
        .ruleEvaluated object filter.rule (filter.finds object) (filter.applies object) ::
          (verdictsFrom object (index + 1) filters).events⟩ := by
  rw [← List.append_nil (verdictsFrom object (index + 1) filters).events]
  rfl

theorem value_verdictsFrom (object : SchemaObject) (index : Nat) (filters : List Filter) :
    (verdictsFrom object index filters).value =
      filters.mapIdx fun i filter => ⟨index + i, filter.rule, filter.applies object⟩ := by
  -- The filters behind the first one begin at the next place.
  induction filters generalizing index with
  | nil => rfl
  | cons filter filters ih =>
    have hplace (i : Nat) : index + 1 + i = index + (i + 1) := by omega
    rw [verdictsFrom_cons, ih, List.mapIdx_cons]
    simp only [hplace, Nat.add_zero]

/-- Each filter gives one verdict, in order, with its place in the set. -/
theorem verdicts_eq_mapIdx (set : FilterSet) (object : SchemaObject) :
    set.verdicts object =
      set.filters.mapIdx fun i filter => ⟨i, filter.rule, filter.applies object⟩ := by
  have h := value_verdictsFrom object 0 set.filters
  simp only [Nat.zero_add] at h
  exact h

theorem events_verdictsFrom (object : SchemaObject) (index : Nat) (filters : List Filter) :
    (verdictsFrom object index filters).events = filters.map fun filter =>
      .ruleEvaluated object filter.rule (filter.finds object) (filter.applies object) := by
  induction filters generalizing index with
  | nil => rfl
  | cons filter filters ih =>
    rw [verdictsFrom_cons, ih, List.map_cons]

/-- Observers are told of each verdict, in the same order. -/
theorem events_verdictsTraced (set : FilterSet) (object : SchemaObject) :
    (set.verdictsTraced object).events = set.filters.map fun filter =>
      .ruleEvaluated object filter.rule (filter.finds object) (filter.applies object) :=
  events_verdictsFrom object 0 set.filters

theorem length_verdicts (set : FilterSet) (object : SchemaObject) :
    (set.verdicts object).length = set.size := by
  rw [verdicts_eq_mapIdx, List.length_mapIdx, size]

theorem getElem?_verdicts (set : FilterSet) (object : SchemaObject) (i : Nat) :
    (set.verdicts object)[i]? =
      set.filters[i]?.map fun filter => ⟨i, filter.rule, filter.applies object⟩ := by
  rw [verdicts_eq_mapIdx, List.getElem?_mapIdx]

/-- The verdicts are about the rules of the set, in order. -/
theorem map_rule_verdicts (set : FilterSet) (object : SchemaObject) :
    (set.verdicts object).map (·.rule) = set.rules := by
  refine List.ext_getElem? fun i => ?_
  rw [List.getElem?_map, getElem?_verdicts, FilterSet.rules, List.getElem?_map, Option.map_map]
  rfl

end FilterSet

/-! ### Rules behind others -/

/-- The verdict of a rule with some more rules before it. -/
def Verdict.behind (count : Nat) (verdict : Verdict) : Verdict :=
  { verdict with index := verdict.index + count }

/-- The error of a list of rules with some more rules before it. -/
def SetError.behind (count : Nat) (e : SetError) : SetError :=
  { e with index := e.index + count }

namespace FilterSet

/-- A set with the filters of another behind its own. -/
def append (s t : FilterSet) : FilterSet where
  filters := s.filters ++ t.filters

@[simp] theorem rules_append (s t : FilterSet) : (s.append t).rules = s.rules ++ t.rules :=
  List.map_append

theorem size_of_ofRules {rules : List Rule} {set : FilterSet} (h : ofRules rules = .ok set) :
    set.size = rules.length := by
  rw [← ofRules_eq_ok_iff.mp h, FilterSet.rules, List.length_map, size]

/-- The verdicts of a set come first, and those of the set behind it are moved. -/
theorem verdicts_append (s t : FilterSet) (object : SchemaObject) :
    (s.append t).verdicts object =
      s.verdicts object ++ (t.verdicts object).map (Verdict.behind s.size) := by
  simp only [verdicts_eq_mapIdx]
  rw [append, List.mapIdx_append]
  simp only [List.mapIdx_eq_zipIdx_map, List.map_map]
  rfl

variable {a b : List Rule} {s t : FilterSet} {e : SetError}

/-- What is wrong with rules is wrong with them whatever stands behind. -/
theorem ofRules_append_of_error (ha : ofRules a = .error e) (b : List Rule) :
    ofRules (a ++ b) = .error e := by
  obtain ⟨before, rule, after, refusal, rfl, hbefore, hrefusal, rfl⟩ :=
    ofRules_eq_error_iff.mp ha
  rw [ofRules_eq_error_iff]
  exact ⟨before, rule, after ++ b, refusal, by simp, hbefore, hrefusal, rfl⟩

/-- Behind good rules, what is wrong with rules is still wrong with them, in another place. -/
theorem ofRules_append_of_ok_of_error (ha : ofRules a = .ok s) (hb : ofRules b = .error e) :
    ofRules (a ++ b) = .error (e.behind a.length) := by
  obtain ⟨before, rule, after, refusal, rfl, hbefore, hrefusal, rfl⟩ :=
    ofRules_eq_error_iff.mp hb
  have hfirst : ∀ r ∈ a, r.Compiles := by
    intro r hr
    rw [← ofRules_eq_ok_iff.mp ha] at hr
    exact compiles_of_mem_rules hr
  have hplace : before.length + a.length = (a ++ before).length := by
    rw [List.length_append, Nat.add_comm]
  rw [SetError.behind, hplace, ofRules_eq_error_iff]
  exact ⟨a ++ before, rule, after, refusal, by simp,
    List.forall_mem_append.mpr ⟨hfirst, hbefore⟩, hrefusal, rfl⟩

theorem ofRules_append_of_ok (ha : ofRules a = .ok s) (hb : ofRules b = .ok t) :
    ofRules (a ++ b) = .ok (s.append t) := by
  rw [ofRules_eq_ok_iff, rules_append, ofRules_eq_ok_iff.mp ha, ofRules_eq_ok_iff.mp hb]

end FilterSet

/-! ### Rules alone -/

/-- The verdicts on an object are those of the rules that some texts spell, each with its place:
    what every one of them says of the object if there is no other. -/
def SaysEachAlone (raws : List String) (rules : List Rule) (object : SchemaObject)
    (verdicts : List Verdict) : Prop :=
  verdicts.length = raws.length ∧
    ∀ i raw, raws[i]? = some raw → ∃ (alone : FilterSet) (rule : Rule) (applies : Bool),
      (FilterSet.parse [raw]).value = .ok alone ∧
      alone.verdictsAll [object] = [[⟨0, rule, applies⟩]] ∧
      rules[i]? = some rule ∧ verdicts[i]? = some (Verdict.mk i rule applies)

namespace FilterSet

/-- A filter that is alone gives the verdict that it gives among others. -/
theorem verdictsAll_singleton (filter : Filter) (object : SchemaObject) :
    (FilterSet.mk [filter]).verdictsAll [object] =
      [[⟨0, filter.rule, filter.applies object⟩]] := rfl

theorem saysEachAlone_verdicts {raws : List String} {set : FilterSet}
    (h : (parse raws).value = .ok set) (object : SchemaObject) :
    SaysEachAlone raws set.rules object (set.verdicts object) := by
  have hrules := value_parse_eq_ok_iff.mp h
  have hlength : raws.length = set.filters.length := by
    rw [hrules.length_eq, FilterSet.rules, List.length_map]
  refine ⟨(length_verdicts set object).trans hlength.symm, ?_⟩
  intro i raw hraw
  obtain ⟨hi, rfl⟩ := List.getElem?_eq_some_iff.mp hraw
  have hfilter : set.filters[i]? = some set.filters[i] :=
    List.getElem?_eq_getElem (hlength ▸ hi)
  have hrule : set.rules[i]? = some set.filters[i].rule := by
    rw [FilterSet.rules, List.getElem?_map, hfilter]
    rfl
  have hparse : Rule.parse raws[i] = .ok set.filters[i].rule := by
    have hplace := hrules.get hi (hrules.length_eq ▸ hi)
    simpa [FilterSet.rules] using hplace
  -- Alone, the text spells the filter that stands in its place among the others.
  have halone : (parse [raws[i]]).value = .ok ⟨[set.filters[i]]⟩ :=
    value_parse_eq_ok_iff.mpr (.cons hparse .nil)
  refine ⟨⟨[set.filters[i]]⟩, set.filters[i].rule, set.filters[i].applies object, halone,
    verdictsAll_singleton _ object, hrule, ?_⟩
  rw [getElem?_verdicts, hfilter]
  rfl

/-! ### Objects and reports -/

/-- Each object has one report, which is about its own verdicts. -/
theorem reports_eq_map (set : FilterSet) (arguments : List ObjectArgument) :
    set.reports arguments = arguments.map fun argument =>
      ObjectReport.ofVerdicts argument (set.verdicts argument.object) := by
  rw [reports, verdictsAll, List.map_map, List.zipWith_map_right, List.zipWith_self]
  rfl

end FilterSet

/-- **Independence.**  In the set of some texts, and in the reports of the command about it, each
    rule says of each object what it says alone of that object alone.  Rules behind others make a
    set that gives their verdicts behind those of the others; and if there is none, what is wrong
    is what is wrong with either of the two lists, in its place.  Objects behind others have their
    verdicts, and their decisions by any policy, behind those of the others. -/
theorem verdicts_independent :
    (∀ (raws : List String) (set : FilterSet), (FilterSet.parse raws).value = .ok set →
      (∀ objects, List.Forall₂ (SaysEachAlone raws set.rules) objects (set.verdictsAll objects)) ∧
      ∀ arguments, List.Forall₂ (fun (argument : ObjectArgument) report =>
        ∃ verdicts, SaysEachAlone raws set.rules argument.object verdicts ∧
          report = ObjectReport.ofVerdicts argument verdicts) arguments (set.reports arguments)) ∧
    (∀ a b : List Rule,
      (∀ e, FilterSet.ofRules a = .error e → FilterSet.ofRules (a ++ b) = .error e) ∧
      (∀ s e, FilterSet.ofRules a = .ok s → FilterSet.ofRules b = .error e →
        FilterSet.ofRules (a ++ b) = .error { e with index := e.index + a.length }) ∧
      ∀ s t, FilterSet.ofRules a = .ok s → FilterSet.ofRules b = .ok t →
        ∃ both, FilterSet.ofRules (a ++ b) = .ok both ∧ ∀ object,
          both.verdicts object = s.verdicts object ++
            (t.verdicts object).map fun v => { v with index := v.index + a.length }) ∧
    ∀ (set : FilterSet) (xs ys : List SchemaObject),
      set.verdictsAll (xs ++ ys) = set.verdictsAll xs ++ set.verdictsAll ys ∧
      ∀ policy,
        set.keepsAll policy (xs ++ ys) = set.keepsAll policy xs ++ set.keepsAll policy ys := by
  refine ⟨?_, ?_, ?_⟩
  · intro raws set hset
    have halone := FilterSet.saysEachAlone_verdicts hset
    constructor
    · intro objects
      rw [FilterSet.verdictsAll, List.forall₂_map_right_iff, List.forall₂_same]
      exact fun object _ => halone object
    · intro arguments
      rw [FilterSet.reports_eq_map, List.forall₂_map_right_iff, List.forall₂_same]
      exact fun argument _ => ⟨_, halone argument.object, rfl⟩
  · intro a b
    refine ⟨fun e ha => FilterSet.ofRules_append_of_error ha b,
      fun s e ha hb => FilterSet.ofRules_append_of_ok_of_error ha hb, ?_⟩
    intro s t ha hb
    refine ⟨s.append t, FilterSet.ofRules_append_of_ok ha hb, fun object => ?_⟩
    rw [FilterSet.verdicts_append, FilterSet.size_of_ofRules ha]
    rfl
  · intro set xs ys
    exact ⟨List.map_append, fun policy => List.map_append⟩

end SchemaFilter
