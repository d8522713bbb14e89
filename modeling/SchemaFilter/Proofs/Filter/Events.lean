import SchemaFilter.Proofs.Filter.Verdicts
import SchemaFilter.Proofs.Rule.Refusal

/-!
# What observers are told

Observers are told of each text that is read, of each rule that is looked at, and of each decision.
What they are told is what is read, found and decided.

* `Event.Says` — how an event is told;
* `TellsOfReading`, `TellsOfVerdict` — events that say what was read, and what was found;
* `FilterSet.readUpTo` — the texts that are read;
* `FilterSet.tellsOfReading_events_parse`, `FilterSet.tellsOfVerdict_events_verdictsTraced` — what
  is told of texts and of rules;
* `FilterSet.events_truthful` — **the events** of a set, from the texts to the decision.
-/

namespace SchemaFilter

/-! ### What events say -/

/-- How an event is told: how much it matters, what it is about, what happened, and with what. -/
structure Event.Says (event : Event) (level : Level) (target message : String)
    (fields : List Field) : Prop where
  level_eq : event.level = level
  target_eq : event.target = target
  message_eq : event.message = message
  fields_eq : event.fields = fields

/-- The event says of a text which rule it is, or why it is none. -/
inductive TellsOfReading (raw : String) (event : Event) : Prop
  | rule {rule : Rule} (h : Rule.parse raw = .ok rule)
      (htold : event.Says .debug Event.filterTarget "rule_parsed" [
        ⟨"rule", .text (trimmed raw)⟩,
        ⟨"operation", .text rule.operation.keyword⟩,
        ⟨"filter_type", .text rule.subject.keyword⟩,
        ⟨"negated", .flag (decide (rule.polarity = .negative))⟩])
  | rejected {e : ParseError} (h : Rule.parse raw = .error e)
      (htold : event.Says .debug Event.filterTarget "rule_rejected" [
        ⟨"rule", .text (trimmed raw)⟩,
        ⟨"kind", .text e.kind.text⟩,
        ⟨"fragment", .text e.fragment⟩])

/-- The object lies in the schema that the rule is restricted to, and the pattern of the rule is
    found in what the rule looks at. -/
def Rule.IsFound (rule : Rule) (object : SchemaObject) : Prop :=
  (∀ schema ∈ rule.qualifier?, eqIgnoringAsciiCase object.effectiveSchema schema = true) ∧
    ∃ expr, Pattern.compile rule.pattern = .ok expr ∧
      expr.occursIn (object.get rule.subject).toList = true

/-- The event says whether the rule of a verdict was found, and the verdict, which is that the rule
    was found or is negative, and not both. -/
inductive TellsOfVerdict (object : SchemaObject) (verdict : Verdict) (event : Event) : Prop
  | evaluated {found : Bool} (hfound : found = true ↔ verdict.rule.IsFound object)
      (happlies : verdict.applies = true ↔ Xor (found = true) (verdict.rule.polarity = .negative))
      (htold : event.Says .trace Event.filterTarget "rule_evaluate" [
        ⟨"object", .text object.multiPartName⟩,
        ⟨"pattern", .text verdict.rule.pattern⟩,
        ⟨"matched", .flag found⟩,
        ⟨"applies", .flag verdict.applies⟩])

/-! ### Texts -/

theorem tellsOfReading_ruleParsed {raw : String} {rule : Rule} (h : Rule.parse raw = .ok rule) :
    TellsOfReading raw (.ruleParsed (trimmed raw) rule) := by
  refine .rule h ⟨rfl, rfl, rfl, ?_⟩
  cases hpolarity : rule.polarity <;> simp [Event.fields, hpolarity, Polarity.isNegative]

theorem tellsOfReading_ruleRejected {raw : String} {e : ParseError}
    (h : Rule.parse raw = .error e) : TellsOfReading raw (.ruleRejected e) := by
  obtain ⟨hrule, -⟩ := Rule.parse_eq_error_iff.mp h
  have htext : e.rule = trimmed raw := by
    rw [trimmed, ← hrule, String.ofList_toList]
  refine .rejected h ⟨rfl, rfl, rfl, ?_⟩
  rw [Event.fields, htext]

namespace FilterSet

/-- The texts that are read: all that are rules, up to the first that is none, and that one. -/
def readUpTo (raws : List String) : List String :=
  raws.takeWhile (fun raw => (Rule.parse raw).isOk) ++
    (raws.dropWhile fun raw => (Rule.parse raw).isOk).head?.toList

theorem readUpTo_cons_of_ok {raw : String} {rule : Rule} (h : Rule.parse raw = .ok rule)
    (raws : List String) : readUpTo (raw :: raws) = raw :: readUpTo raws := by
  simp [readUpTo, h, Except.isOk, Except.toBool]

theorem readUpTo_cons_of_error {raw : String} {e : ParseError} (h : Rule.parse raw = .error e)
    (raws : List String) : readUpTo (raw :: raws) = [raw] := by
  simp [readUpTo, h, Except.isOk, Except.toBool]

theorem tellsOfReading_events_parseFrom (index : Nat) (raws : List String) :
    List.Forall₂ TellsOfReading (readUpTo raws) (parseFrom index raws).events := by
  induction raws generalizing index with
  | nil => exact .nil
  | cons raw raws ih =>
    cases h : Rule.parse raw with
    | error e =>
      rw [readUpTo_cons_of_error h, parseFrom_cons_error h]
      exact .cons (tellsOfReading_ruleRejected h) .nil
    | ok rule =>
      rw [readUpTo_cons_of_ok h, parseFrom_cons_ok h]
      exact .cons (tellsOfReading_ruleParsed h) (ih (index + 1))

/-- Each text that is read is told of, in order.  Of patterns nothing is told, good or bad. -/
theorem tellsOfReading_events_parse (raws : List String) :
    List.Forall₂ TellsOfReading (readUpTo raws) (parse raws).events := by
  rw [parse_eq_parseBy]
  exact tellsOfReading_events_parseFrom 0 raws

end FilterSet

/-! ### Rules -/

/-- What a filter looks for is found where its rule is. -/
theorem Filter.finds_iff {filter : Filter} {object : SchemaObject} :
    filter.finds object = true ↔ filter.rule.IsFound object := by
  -- The pattern means one expression only, which is the one that the filter has.
  have hexpr : (∃ expr, Pattern.compile filter.rule.pattern = .ok expr ∧
        expr.occursIn (object.get filter.rule.subject).toList = true) ↔
      filter.expr.occursIn (object.get filter.rule.subject).toList = true := by
    simp [filter.compile_eq]
  rw [finds, Bool.and_eq_true, Rule.IsFound, hexpr, inScope]
  simp [Option.all_eq_true]

theorem tellsOfVerdict_ruleEvaluated (filter : Filter) (object : SchemaObject) (index : Nat) :
    TellsOfVerdict object ⟨index, filter.rule, filter.applies object⟩
      (.ruleEvaluated object filter.rule (filter.finds object) (filter.applies object)) :=
  .evaluated Filter.finds_iff Filter.applies_iff ⟨rfl, rfl, rfl, rfl⟩

namespace FilterSet

theorem tellsOfVerdict_events_verdictsFrom (object : SchemaObject) (index : Nat)
    (filters : List Filter) :
    List.Forall₂ (TellsOfVerdict object) (verdictsFrom object index filters).value
      (verdictsFrom object index filters).events := by
  induction filters generalizing index with
  | nil => exact .nil
  | cons filter filters ih =>
    rw [verdictsFrom_cons]
    exact .cons (tellsOfVerdict_ruleEvaluated filter object index) (ih (index + 1))

/-- Each verdict is told of, in order. -/
theorem tellsOfVerdict_events_verdictsTraced (set : FilterSet) (object : SchemaObject) :
    List.Forall₂ (TellsOfVerdict object) (set.verdicts object)
      (set.verdictsTraced object).events :=
  tellsOfVerdict_events_verdictsFrom object 0 set.filters

/-! ### Decisions -/

/-- The last that is told is the decision, which is what the policy makes of the verdicts. -/
theorem events_keepsTraced (set : FilterSet) (policy : Policy) (object : SchemaObject) :
    (set.keepsTraced policy object).events = (set.verdictsTraced object).events ++
      [.objectDecided object (policy object (set.verdicts object))
        ((set.verdicts object).countP (·.applies))] := rfl

theorem keeps_eq (set : FilterSet) (policy : Policy) (object : SchemaObject) :
    set.keeps policy object = policy object (set.verdicts object) := rfl

/-- The verdicts are on the rules that the texts of the set spell. -/
theorem parse_eq_ok_of_verdicts {raws : List String} {set : FilterSet}
    (h : (parse raws).value = .ok set) (object : SchemaObject) :
    List.Forall₂ (fun raw verdict => Rule.parse raw = .ok verdict.rule) raws
      (set.verdicts object) := by
  have hrules := value_parse_eq_ok_iff.mp h
  rwa [← map_rule_verdicts set object, List.forall₂_map_right_iff] at hrules

/-- **The events** tell the truth.  When texts are read, observers are told of each of them, up to
    and with the first that is no rule, and of nothing else.  When a set of them decides on an
    object, they are told of each rule, in order, whether it was found and what its verdict is; and
    then of the decision, with the number of rules that apply. -/
theorem events_truthful :
    (∀ raws, List.Forall₂ TellsOfReading (readUpTo raws) (parse raws).events) ∧
      ∀ raws set, (parse raws).value = .ok set → ∀ policy object,
        List.Forall₂ (fun raw verdict => Rule.parse raw = .ok verdict.rule) raws
          (set.verdicts object) ∧
        ∃ evaluations decision,
          (set.keepsTraced policy object).events = evaluations ++ [decision] ∧
          List.Forall₂ (TellsOfVerdict object) (set.verdicts object) evaluations ∧
          decision.Says .info Event.filterTarget "object_decision" [
            ⟨"object", .text object.multiPartName⟩,
            ⟨"kept", .flag (set.keeps policy object)⟩,
            ⟨"applied_rules", .count ((set.verdicts object).countP (·.applies))⟩] ∧
          set.keeps policy object = policy object (set.verdicts object) := by
  refine ⟨tellsOfReading_events_parse, fun raws set h policy object => ?_⟩
  exact ⟨parse_eq_ok_of_verdicts h object, _, _, events_keepsTraced set policy object,
    tellsOfVerdict_events_verdictsTraced set object, ⟨rfl, rfl, rfl, rfl⟩,
    keeps_eq set policy object⟩

/-- Behind the first text that is no rule, nothing is told. -/
example :
    (parse ["KeepName(a, b)", "KeepName()", "KeepName(c)"]).events.map Event.message =
      ["rule_parsed", "rule_rejected"] := by
  decide

end FilterSet

end SchemaFilter
