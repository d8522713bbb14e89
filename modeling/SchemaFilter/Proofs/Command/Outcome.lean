import SchemaFilter.Command.Program
import SchemaFilter.Proofs.Command.Loading
import SchemaFilter.Proofs.Command.Work
import SchemaFilter.Proofs.Filter.Compile

/-!
# How a run of the command ends

The command reads sources, reads rules, looks at patterns, and reads objects.  If all of that
succeeds, it writes a whole listing and tells its user nothing; or else it writes nothing and tells
of the first step that fails.

* `SourcesReadable`, `RulesParse`, `PatternsCompile`, `ObjectsWellFormed` — what each step needs;
* `Lists` — the listing that is written where all of them succeed;
* `Reports` — what is told of the first step that fails;
* `run_all_or_nothing` — **the outcome**: one or the other.
-/

namespace SchemaFilter

/-! ### Sinks and listings -/

/-- Whatever the sink is given, it takes all of it, and confirms that. -/
def Sink.NeverFails (sink : Sink) : Prop :=
  ∀ bytes, (sink.deliver bytes).2 = none

/-- A sink that never fails has what it is given behind what it has. -/
theorem Sink.NeverFails.deliver_eq {sink : Sink} (h : sink.NeverFails) (bytes : Bytes) :
    sink.deliver bytes = ({ sink with written := sink.written ++ bytes }, none) := by
  obtain ⟨room, flushFails, written⟩ := sink
  cases room with
  | some room =>
    -- A sink with some room fails when it is given one byte more.
    have hfull := h (List.replicate (room + 1) 0)
    simp [deliver, write] at hfull
  | none =>
    have hflush := h bytes
    exact Prod.ext rfl hflush

/-- Which listing it is depends on whether there are objects, and on whether JSON is asked for. -/
theorem Listing.text_eq (json : Bool) (set : FilterSet) (objects : List ObjectArgument) :
    text json set objects =
      if objects = [] then if json then rulesJson set else ruleLines set
      else
        if json then verdictsJson (set.reports objects)
        else verdictLines (set.reports objects) := by
  cases objects <;> cases json <;> rfl

namespace Command

namespace Arguments

variable (a : Arguments) (inputs : Inputs)

/-! ### What the steps need -/

/-- The sources that the arguments name. -/
def sources : List Source :=
  a.ruleFiles.map Source.ofArg

/-- The texts of all rules: those in the arguments, and behind them those in the sources. -/
def ruleTexts : List String :=
  a.rules.map Bytes.toText ++ (Source.rulesEach inputs [] a.sources).flatten

/-- Every source can be read. -/
def SourcesReadable : Prop :=
  ∀ source ∈ a.sources, source.IsReadable inputs

/-- Every text is a rule. -/
def RulesParse : Prop :=
  ∀ raw ∈ a.ruleTexts inputs, ∃ rule, Rule.parse raw = .ok rule

/-- Every pattern is good. -/
def PatternsCompile : Prop :=
  ∀ raw ∈ a.ruleTexts inputs, ∀ rule, Rule.parse raw = .ok rule → rule.Compiles

/-- Every argument that should be an object is one. -/
def ObjectsWellFormed : Prop :=
  ∀ arg ∈ a.objects, ∃ object, ObjectArgument.parse arg.toText = .ok object

/-- Every step succeeds. -/
def Succeeds : Prop :=
  a.SourcesReadable inputs ∧ a.RulesParse inputs ∧ a.PatternsCompile inputs ∧ a.ObjectsWellFormed

/-! ### What is written, or told -/

/-- The rules that all texts are read as. -/
def ReadsRules (rules : List Rule) : Prop :=
  List.Forall₂ (fun raw rule => Rule.parse raw = .ok rule) (a.ruleTexts inputs) rules

/-- The objects that all arguments for objects are read as. -/
def ReadsObjects (objects : List ObjectArgument) : Prop :=
  List.Forall₂ (fun arg object => ObjectArgument.parse (Bytes.toText arg) = .ok object)
    a.objects objects

/-- The text is the whole listing: the rules, or the verdicts on objects if there are some, as
    lines or as JSON. -/
def Lists (text : String) : Prop :=
  ∃ (set : FilterSet) (objects : List ObjectArgument),
    a.ReadsRules inputs set.rules ∧ a.ReadsObjects objects ∧
    text =
      if a.objects = [] then
        if a.json then Listing.rulesJson set else Listing.ruleLines set
      else
        if a.json then Listing.verdictsJson (set.reports objects)
        else Listing.verdictLines (set.reports objects)

end Arguments

/-- The errors of all texts that are no rules. -/
def rejections (raws : List String) : List ParseError :=
  raws.filterMap fun raw =>
    match Rule.parse raw with
    | .ok _ => none
    | .error e => some e

/-- What is told of all texts that are no rules. -/
def rejectionText (raws : List String) : String :=
  String.join ((rejections raws).map fun e => Work.errorLine e.message)

/-- The text tells of the first step that fails: of the first source that cannot be read, of all
    texts that are no rules, of the first bad pattern, or of the first bad object. -/
inductive Arguments.Reports (a : Arguments) (inputs : Inputs) : String → Prop
  | source {before after : List Source} {source : Source} {cause : SystemError}
      (hsplit : a.sources = before ++ source :: after)
      (hbefore : ∀ s ∈ before, s.IsReadable inputs)
      (hcause : source.read inputs = .error cause) :
      a.Reports inputs (Work.errorLine (SourceError.message ⟨source, cause⟩))
  | rules (hsources : a.SourcesReadable inputs)
      (hrejected : rejections (a.ruleTexts inputs) ≠ []) :
      a.Reports inputs (rejectionText (a.ruleTexts inputs))
  | pattern {before after : List Rule} {rule : Rule} {refusal : Pattern.Refusal}
      (hsources : a.SourcesReadable inputs)
      (hrules : a.ReadsRules inputs (before ++ rule :: after))
      (hbefore : ∀ r ∈ before, r.Compiles)
      (hrefusal : Pattern.compile rule.pattern = .error refusal) :
      a.Reports inputs (Work.errorLine
        (SetError.message ⟨before.length, .filter ⟨rule.pattern, refusal⟩⟩))
  | object {before after : List Bytes} {arg : Bytes} {e : ObjectArgumentError}
      (hsources : a.SourcesReadable inputs) (hrules : a.RulesParse inputs)
      (hpatterns : a.PatternsCompile inputs) (hsplit : a.objects = before ++ arg :: after)
      (hbefore : ∀ x ∈ before, ∃ object, ObjectArgument.parse (Bytes.toText x) = .ok object)
      (herror : ObjectArgument.parse (Bytes.toText arg) = .error e) :
      a.Reports inputs (Work.errorLine e.message)

variable {a : Arguments} {inputs : Inputs}

/-! ### Sources -/

/-- Where all sources can be read, their rules are loaded. -/
theorem loadRules_meets_of_readable (hsources : a.SourcesReadable inputs)
    (report : String → Prop) :
    (a.loadRules inputs).Meets (· = a.ruleTexts inputs) report := by
  -- Each source is read in the state that those before it leave, which `rulesEach` accounts for.
  have hload := Source.loadAll_eq_of_readable hsources (a.rules.map Bytes.toText)
  have hwatch : (Work.watch (Source.loadAll inputs (a.rules.map Bytes.toText) a.sources)).Meets
      (fun loaded => loaded = { rules := a.ruleTexts inputs }) report :=
    .watch (congrArg Traced.value hload)
  refine hwatch.bind fun loaded hloaded => ?_
  rw [hloaded]
  exact .pure rfl

/-- Where a source cannot be read, and those before it can, nothing is loaded. -/
theorem loadRules_meets_of_failure {before after : List Source} {source : Source}
    {cause : SystemError} (hsplit : a.sources = before ++ source :: after)
    (hbefore : ∀ s ∈ before, s.IsReadable inputs) (hcause : source.read inputs = .error cause) :
    (a.loadRules inputs).Meets (fun _ => False)
      (· = Work.errorLine (SourceError.message ⟨source, cause⟩)) := by
  have hload : Source.loadAll inputs (a.rules.map Bytes.toText) a.sources = _ :=
    hsplit ▸ Source.loadAll_eq_of_failure hbefore hcause (a.rules.map Bytes.toText)
  have hwatch : (Work.watch (Source.loadAll inputs (a.rules.map Bytes.toText) a.sources)).Meets
      (fun loaded => loaded.failure = some ⟨source, cause⟩)
      (· = Work.errorLine (SourceError.message ⟨source, cause⟩)) :=
    .watch (congrArg (fun t => t.value.failure) hload)
  refine hwatch.bind fun loaded hloaded => ?_
  rw [hloaded]
  exact .giveUp rfl

theorem loadRules_meets (a : Arguments) (inputs : Inputs) :
    (a.loadRules inputs).Meets
      (fun raws => a.SourcesReadable inputs ∧ raws = a.ruleTexts inputs) (a.Reports inputs) := by
  rcases Source.readable_or_exists_failure inputs a.sources with
    hsources | ⟨before, source, after, cause, hsplit, hbefore, hcause⟩
  · exact (loadRules_meets_of_readable hsources _).mono (fun _ h => ⟨hsources, h⟩) fun _ h => h
  · refine (loadRules_meets_of_failure hsplit hbefore hcause).mono (fun _ h => h.elim) ?_
    rintro _ rfl
    exact .source hsplit hbefore hcause

/-! ### Rules -/

theorem rejections_cons_ok {raw : String} {rule : Rule} (h : Rule.parse raw = .ok rule)
    (raws : List String) : rejections (raw :: raws) = rejections raws := by
  simp [rejections, h]

theorem rejections_cons_error {raw : String} {e : ParseError} (h : Rule.parse raw = .error e)
    (raws : List String) : rejections (raw :: raws) = e :: rejections raws := by
  simp [rejections, h]

theorem rejectionText_cons_ok {raw : String} {rule : Rule} (h : Rule.parse raw = .ok rule)
    (raws : List String) : rejectionText (raw :: raws) = rejectionText raws := by
  rw [rejectionText, rejections_cons_ok h, ← rejectionText]

theorem rejectionText_cons_error {raw : String} {e : ParseError} (h : Rule.parse raw = .error e)
    (raws : List String) :
    rejectionText (raw :: raws) = Work.errorLine e.message ++ rejectionText raws := by
  rw [rejectionText, rejections_cons_error h, List.map_cons, String.join_cons, ← rejectionText]

/-- Nothing is rejected exactly if all texts are rules. -/
theorem rejections_eq_nil_iff {raws : List String} :
    rejections raws = [] ↔ ∀ raw ∈ raws, ∃ rule, Rule.parse raw = .ok rule := by
  rw [rejections, List.filterMap_eq_nil_iff]
  refine forall₂_congr fun raw _ => ?_
  cases Rule.parse raw <;> simp

/-- A text that is a rule is put in front of the rules behind it, where there are such. -/
theorem readRules_cons_ok {raw : String} {rule : Rule} (h : Rule.parse raw = .ok rule)
    (raws : List String) :
    (readRules (raw :: raws)).run =
      ⟨(readRules raws).run.value.map (rule :: ·),
        [.event (.ruleParsed (trimmed raw) rule)] ++ (readRules raws).run.events⟩ := by
  simp only [readRules, Rule.parseTraced, h]
  rw [← List.append_nil (readRules raws).run.events]
  rfl

/-- A text that is no rule is told of, and those behind it are read all the same. -/
theorem readRules_cons_error {raw : String} {e : ParseError} (h : Rule.parse raw = .error e)
    (raws : List String) :
    (readRules (raw :: raws)).run =
      ⟨none, [.event (.ruleRejected e)] ++ ([.diagnostic (Work.errorLine e.message)] ++
        (readRules raws).run.events)⟩ := by
  simp only [readRules, Rule.parseTraced, h]
  rw [← List.append_nil (readRules raws).run.events]
  rfl

/-- Reading goes through all texts, and tells of every one that is no rule; its result is the
    rules, if that is what all texts are. -/
theorem readRules_run (raws : List String) :
    (readRules raws).run.value = (raws.mapM Rule.parse).toOption ∧
      diagnosticText (readRules raws).run.events = rejectionText raws := by
  induction raws with
  | nil => exact ⟨rfl, rfl⟩
  | cons raw raws ih =>
    obtain ⟨hvalue, htext⟩ := ih
    rw [List.mapM_cons]
    cases h : Rule.parse raw with
    | ok rule =>
      rw [readRules_cons_ok h, hvalue]
      constructor
      · cases raws.mapM Rule.parse <;> rfl
      · rw [diagnosticText_append, diagnosticText_event, String.empty_append, htext,
          rejectionText_cons_ok h]
    | error e =>
      -- The rules behind are lost, but not what is told of them.
      rw [readRules_cons_error h]
      constructor
      · rfl
      · rw [diagnosticText_append, diagnosticText_event, String.empty_append,
          diagnosticText_append, diagnosticText_diagnostic, htext, rejectionText_cons_error h]

/-- Reading ends with the rules, or else tells of all texts that are no rules. -/
theorem readRules_meets (raws : List String) :
    (readRules raws).Meets
      (fun rules => List.Forall₂ (fun raw rule => Rule.parse raw = .ok rule) raws rules)
      (fun text => rejections raws ≠ [] ∧ text = rejectionText raws) := by
  obtain ⟨hvalue, htext⟩ := readRules_run raws
  cases h : raws.mapM Rule.parse with
  | ok rules =>
    rw [h] at hvalue
    have hnone : rejections raws = [] := by
      rw [rejections_eq_nil_iff]
      exact exists_mapM_eq_ok_iff.mp ⟨rules, h⟩
    refine Work.meets_of_some hvalue (mapM_eq_ok_iff.mp h) (htext.trans ?_)
    rw [rejectionText, hnone]
    rfl
  | error e =>
    rw [h] at hvalue
    refine Work.meets_of_none hvalue ⟨?_, htext⟩
    obtain ⟨before, raw, after, rfl, -, he⟩ := mapM_eq_error_iff.mp h
    intro hnone
    obtain ⟨rule, hrule⟩ := rejections_eq_nil_iff.mp hnone raw (by simp)
    exact absurd (he.symm.trans hrule) (by simp)

/-! ### Patterns and objects -/

theorem buildSet_meets (hsources : a.SourcesReadable inputs) :
    (buildSet (a.ruleTexts inputs)).Meets (fun set => a.ReadsRules inputs set.rules)
      (a.Reports inputs) := by
  unfold buildSet
  have hread := (readRules_meets (a.ruleTexts inputs)).mono (fun _ h => h)
    (fun text h => h.2 ▸ Arguments.Reports.rules hsources h.1)
  refine hread.bind fun rules hrules => .orGiveUp ?_ ?_
  · intro set hset
    rw [FilterSet.ofRules_eq_ok_iff.mp hset]
    exact hrules
  · intro e he
    obtain ⟨before, rule, after, refusal, rfl, hbefore, hrefusal, rfl⟩ :=
      FilterSet.ofRules_eq_error_iff.mp he
    exact .pattern hsources hrules hbefore hrefusal

theorem Arguments.ReadsRules.rulesParse {rules : List Rule} (h : a.ReadsRules inputs rules) :
    a.RulesParse inputs :=
  exists_mapM_eq_ok_iff.mp ⟨rules, mapM_eq_ok_iff.mpr h⟩

theorem Arguments.ReadsRules.patternsCompile_iff {rules : List Rule}
    (h : a.ReadsRules inputs rules) :
    a.PatternsCompile inputs ↔ ∀ rule ∈ rules, rule.Compiles := by
  constructor
  · intro hcompile rule hrule
    obtain ⟨raw, hraw, hparse⟩ := (mem_iff_of_forall₂_eq_ok h).mp hrule
    exact hcompile raw hraw rule hparse
  · intro hcompile raw hraw rule hparse
    exact hcompile rule ((mem_iff_of_forall₂_eq_ok h).mpr ⟨raw, hraw, hparse⟩)

theorem Arguments.ReadsObjects.wellFormed {objects : List ObjectArgument}
    (h : a.ReadsObjects objects) : a.ObjectsWellFormed :=
  exists_mapM_eq_ok_iff.mp ⟨objects, mapM_eq_ok_iff.mpr h⟩

theorem readObjects_meets (hsources : a.SourcesReadable inputs) (hrules : a.RulesParse inputs)
    (hpatterns : a.PatternsCompile inputs) :
    (readObjects a.objects).Meets a.ReadsObjects (a.Reports inputs) := by
  refine .orGiveUp (fun objects h => mapM_eq_ok_iff.mp h) fun e he => ?_
  obtain ⟨before, arg, after, hsplit, hbefore, herror⟩ := mapM_eq_error_iff.mp he
  exact .object hsources hrules hpatterns hsplit hbefore herror

/-! ### The listing -/

/-- Listing ends with the whole listing if every step succeeds, or else tells of the first that
    fails. -/
theorem listing_meets (a : Arguments) (inputs : Inputs) :
    (a.listing inputs).Meets (fun text => a.Succeeds inputs ∧ a.Lists inputs text)
      (a.Reports inputs) := by
  unfold Arguments.listing
  refine (loadRules_meets a inputs).bind ?_
  rintro _ ⟨hsources, rfl⟩
  refine (buildSet_meets hsources).bind fun set hrules => ?_
  have hpatterns : a.PatternsCompile inputs :=
    hrules.patternsCompile_iff.mpr fun rule h => FilterSet.compiles_of_mem_rules h
  refine (readObjects_meets hsources hrules.rulesParse hpatterns).bind fun objects hobjects => ?_
  have htell : (Work.tell (.event (.evaluating set.size objects.length a.json))).Meets
      (fun _ => True) (a.Reports inputs) := .tell_event _ trivial
  refine htell.bind fun _ _ => .pure ?_
  refine ⟨⟨hsources, hrules.rulesParse, hpatterns, hobjects.wellFormed⟩,
    set, objects, hrules, hobjects, ?_⟩
  -- The listing looks at the objects that were read, of which there are as many as arguments.
  have hnone : objects = [] ↔ a.objects = [] := by
    rw [← List.length_eq_zero_iff, ← hobjects.length_eq, List.length_eq_zero_iff]
  simp only [Listing.text_eq, hnone]

/-- What is told of a step that fails is told only where not every step succeeds. -/
theorem Arguments.Reports.not_succeeds {text : String} (h : a.Reports inputs text) :
    ¬ a.Succeeds inputs := by
  rintro ⟨hread, hparse, hcompile, hformed⟩
  cases h with
  | source hsplit _ hcause =>
    obtain ⟨bytes, hbytes⟩ := hread _ (hsplit ▸ List.mem_append_cons_self)
    exact absurd (hcause.symm.trans hbytes) (by simp)
  | rules _ hrejected =>
    exact hrejected (rejections_eq_nil_iff.mpr hparse)
  | pattern _ hrules _ hrefusal =>
    obtain ⟨expr, hexpr⟩ := hrules.patternsCompile_iff.mp hcompile _ List.mem_append_cons_self
    exact absurd (hrefusal.symm.trans hexpr) (by simp)
  | object _ _ _ hsplit _ herror =>
    obtain ⟨object, hobject⟩ := hformed _ (hsplit ▸ List.mem_append_cons_self)
    exact absurd (herror.symm.trans hobject) (by simp)

theorem errorLine_ne_empty (message : String) : Work.errorLine message ≠ "" := by
  intro h
  have hchars := congrArg String.toList h
  simp [Work.errorLine, Reporter.standardMark] at hchars

theorem rejectionText_ne_empty {raws : List String} (h : rejections raws ≠ []) :
    rejectionText raws ≠ "" := by
  obtain ⟨e, es, hcons⟩ := List.exists_cons_of_ne_nil h
  rw [rejectionText, hcons, List.map_cons, String.join_cons]
  intro hempty
  exact errorLine_ne_empty e.message (String.append_eq_empty_iff.mp hempty).1

/-- What is told of a step that fails is not nothing. -/
theorem Arguments.Reports.ne_empty {text : String} (h : a.Reports inputs text) : text ≠ "" := by
  cases h with
  | source => exact errorLine_ne_empty _
  | rules _ hrejected => exact rejectionText_ne_empty hrejected
  | pattern => exact errorLine_ne_empty _
  | object => exact errorLine_ne_empty _

/-! ### The run -/

/-- Where neither help nor the version is asked for, what is delivered is the listing. -/
theorem run_eq_deliver_listing {args : List Bytes} (inputs : Inputs) (output : Sink)
    (haccepted : Arguments.ofArgs args.tail = .ok a) (hhelp : a.help = false)
    (hversion : a.version = false) :
    run args inputs output = deliver output (a.listing inputs).run := by
  unfold run
  rw [haccepted]
  show deliver output (a.answer inputs).run = _
  rw [Arguments.answer, hhelp, hversion]
  rfl

theorem deliver_of_some {output : Sink} {answer : Traced Note (Option String)} {text : String}
    (houtput : output.NeverFails) (hvalue : answer.value = some text) :
    deliver output answer =
      { status := Outcome.success
        output := { output with written := output.written ++ .ofString text }
        notes := answer.events } := by
  rw [deliver, hvalue]
  dsimp only
  rw [houtput.deliver_eq]

theorem deliver_of_none {output : Sink} {answer : Traced Note (Option String)}
    (hvalue : answer.value = none) :
    deliver output answer = { status := Outcome.failure, output, notes := answer.events } := by
  rw [deliver, hvalue]

/-- **The outcome.** A run whose arguments are accepted, and whose output never fails, has a
    status that is its exit code: success if and only if every step succeeds.  Then it tells
    nothing, and the whole listing is all that it writes; or else it writes nothing, and tells
    of the first step that fails. -/
theorem run_all_or_nothing {args : List Bytes} {output : Sink} (inputs : Inputs)
    (haccepted : Arguments.ofArgs args.tail = .ok a) (hhelp : a.help = false)
    (hversion : a.version = false) (houtput : output.NeverFails) :
    let o := run args inputs output
    (o.status = 0 ∧ exitCode o.status = 0 ∨ o.status = 1 ∧ exitCode o.status = 1) ∧
      (o.status = 0 ↔
        a.SourcesReadable inputs ∧ a.RulesParse inputs ∧ a.PatternsCompile inputs ∧
          a.ObjectsWellFormed) ∧
      (o.status = 0 → o.diagnostics = "" ∧
        ∃ text, a.Lists inputs text ∧ o.output.written = output.written ++ .ofString text) ∧
      (o.status = 1 → o.output = output ∧ o.diagnostics ≠ "" ∧
        a.Reports inputs o.diagnostics) := by
  intro o
  have hrun : o = deliver output (a.listing inputs).run :=
    run_eq_deliver_listing inputs output haccepted hhelp hversion
  clear_value o
  subst hrun
  have hmeets := listing_meets a inputs
  unfold Work.Meets at hmeets
  split at hmeets
  · rename_i text hvalue
    obtain ⟨⟨hsucceeds, hlists⟩, htold⟩ := hmeets
    rw [deliver_of_some houtput hvalue]
    refine ⟨.inl ⟨rfl, rfl⟩, ⟨fun _ => hsucceeds, fun _ => rfl⟩,
      fun _ => ⟨(Outcome.diagnostics_eq _).trans htold, text, hlists, rfl⟩, fun hfailure => ?_⟩
    exact absurd hfailure (show Outcome.success ≠ 1 by decide)
  · rename_i hvalue
    rw [deliver_of_none hvalue]
    refine ⟨.inr ⟨rfl, rfl⟩, ⟨fun hsuccess => ?_, fun hsucceeds => ?_⟩, fun hsuccess => ?_,
      fun _ => ⟨rfl, hmeets.ne_empty, hmeets⟩⟩
    · exact absurd hsuccess (show Outcome.failure ≠ 0 by decide)
    · exact absurd hsucceeds hmeets.not_succeeds
    · exact absurd hsuccess (show Outcome.failure ≠ 0 by decide)

/-- A text that is no rule, a bad pattern and a bad object, all at once. -/
theorem run_all_or_nothing_of_rejected :
    let args := ["schema-filter", "-f", "Keep", "-fKeepName([)", "Table"].map Bytes.ofString
    let o := run args { file := fun _ => .error .notFound, standardInput := .ok [] } {}
    o.status = 1 ∧ o.output = {} ∧ o.diagnostics ≠ "" := by
  intro args o
  have haccepted : Arguments.ofArgs args.tail = .ok
      { rules := ["Keep", "KeepName([)"].map Bytes.ofString
        objects := [Bytes.ofString "Table"] } := rfl
  obtain ⟨hstatus, hiff, -, hfailure⟩ :=
    run_all_or_nothing { file := fun _ => .error .notFound, standardInput := .ok [] }
      haccepted rfl rfl (fun _ => rfl : Sink.NeverFails {})
  have hone : o.status = 1 := by
    rcases hstatus with ⟨hzero, -⟩ | ⟨hone, -⟩
    · obtain ⟨-, hparse, -⟩ := hiff.mp hzero
      obtain ⟨rule, hrule⟩ := hparse (Bytes.toText (Bytes.ofString "Keep")) List.mem_cons_self
      have herror : Rule.parse (Bytes.toText (Bytes.ofString "Keep")) =
          .error ⟨.unknownSubject, "Keep", ""⟩ := by decide
      exact absurd (herror.symm.trans hrule) (by simp)
    · exact hone
  exact ⟨hone, (hfailure hone).1, (hfailure hone).2.1⟩

end Command

end SchemaFilter
