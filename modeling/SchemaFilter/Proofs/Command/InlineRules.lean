import SchemaFilter.Proofs.Command.Options
import SchemaFilter.Proofs.Command.Outcome
import SchemaFilter.Proofs.Command.RulesFile

/-!
# Rules in files and rules in arguments

Rules can be laid out in files, or be given as arguments.  They are trimmed when a file is read, and
arguments are not; but whatever is done with a text is done with the trimmed text.  So the user of
the command cannot tell one from the other.

* `Inputs.Hold` — files in which texts are laid out;
* `Inputs.Hold.flatten_rulesEach` — what is read from such files;
* `buildSet_agrees` — texts that differ in blanks around them make the same set;
* `answer_agrees` — rules in files, and the same rules in arguments, have the same answer;
* `run_ruleFiles_eq_run_rules` — **the run** is the same to the user.
-/

namespace SchemaFilter

/-! ### Files with rules -/

/-- Some texts are laid out in files, in order: the first of them in the first file, and those
    behind in the other files. -/
inductive Inputs.Hold (inputs : Inputs) : (paths : List Bytes) → (texts : List String) → Prop
  | none : inputs.Hold [] []
  | file {path bytes : Bytes} {paths : List Bytes} {texts more : List String}
      (hpath : path ≠ Source.standardInputMark) (hread : inputs.file path = .ok bytes)
      (hlays : RulesFile.LaysOut texts bytes) (hrest : inputs.Hold paths more) :
      inputs.Hold (path :: paths) (texts ++ more)

variable {inputs : Inputs} {paths : List Bytes} {texts : List String}

theorem Inputs.Hold.readable (h : inputs.Hold paths texts) :
    ∀ source ∈ paths.map Source.ofArg, source.IsReadable inputs := by
  induction h with
  | none => simp
  | file hpath hread _ _ ih =>
    rw [List.map_cons, List.forall_mem_cons, Source.ofArg_of_ne_mark hpath]
    exact ⟨⟨_, hread⟩, ih⟩

/-- Whatever stands before the files, their texts are read from them in order. -/
theorem Inputs.Hold.flatten_rulesEach (h : inputs.Hold paths texts)
    (htexts : ∀ text ∈ texts, RulesFile.IsRuleLine text) (earlier : List Source) :
    (Source.rulesEach inputs earlier (paths.map Source.ofArg)).flatten = texts.map trimmed := by
  induction h generalizing earlier with
  | none => rfl
  | @file path bytes paths texts more hpath hread hlays _ ih =>
    obtain ⟨hfirst, hmore⟩ := List.forall_mem_append.mp htexts
    have hrules : (Source.ofArg path).rulesBehind inputs earlier = texts.map trimmed := by
      rw [Source.ofArg_of_ne_mark hpath, Source.rulesBehind, Source.contentBehind, hread]
      exact RulesFile.rules_of_laysOut hlays hfirst
    rw [List.map_cons, Source.rulesEach, List.flatten_cons, hrules, ih hmore, List.map_append]

/-! ### Trimmed texts -/

theorem Rule.parse_trimmed (raw : String) : parse (trimmed raw) = parse raw := by
  rw [parse, parse, trimmed, String.toList_ofList, trim_trim]

namespace Command

variable {raws raws' : List String}

theorem mapM_parse_trimmed (raws : List String) :
    (raws.map trimmed).mapM Rule.parse = raws.mapM Rule.parse := by
  have hparse : Rule.parse ∘ trimmed = Rule.parse := by
    funext raw
    rw [Function.comp_apply, Rule.parse_trimmed]
  rw [List.mapM_map, hparse]

theorem rejectionText_trimmed (raws : List String) :
    rejectionText (raws.map trimmed) = rejectionText raws := by
  simp only [rejectionText, rejections, List.filterMap_map, Function.comp_def, Rule.parse_trimmed]

/-- Reading texts is the same to the user as reading them trimmed. -/
theorem readRules_agrees (h : raws.map trimmed = raws'.map trimmed) :
    Work.Agrees Eq (readRules raws) (readRules raws') := by
  obtain ⟨hvalue, htext⟩ := readRules_run raws
  obtain ⟨hvalue', htext'⟩ := readRules_run raws'
  have hsame : (readRules raws).run.value = (readRules raws').run.value := by
    rw [hvalue, hvalue', ← mapM_parse_trimmed, h, mapM_parse_trimmed]
  refine ⟨?_, ?_⟩
  · rw [hsame]
    exact (Work.Agrees.refl (readRules raws')).1
  · rw [htext, htext', ← rejectionText_trimmed, h, rejectionText_trimmed]

/-- Texts that differ in blanks around them make the same set. -/
theorem buildSet_agrees (h : raws.map trimmed = raws'.map trimmed) :
    Work.Agrees Eq (buildSet raws) (buildSet raws') := by
  refine (readRules_agrees h).bind ?_
  rintro rules _ rfl
  exact .refl _

/-! ### Answers -/

/-- Arguments that ask for the same, with rules that differ in blanks around them and can all be
    read, have answers that are the same to the user. -/
theorem answer_agrees {a a' : Arguments}
    (hrest : a' = { a with rules := a'.rules, ruleFiles := a'.ruleFiles })
    (hsources : a.SourcesReadable inputs) (hsources' : a'.SourcesReadable inputs)
    (htexts : (a.ruleTexts inputs).map trimmed = (a'.ruleTexts inputs).map trimmed) :
    Work.Agrees Eq (a.answer inputs) (a'.answer inputs) := by
  have hload : Work.Agrees (fun raws raws' => raws.map trimmed = raws'.map trimmed)
      (a.loadRules inputs) (a'.loadRules inputs) := by
    refine .of_meets (loadRules_meets_of_readable hsources _)
      (loadRules_meets_of_readable hsources' _) ?_
    rintro _ _ rfl rfl
    exact htexts
  have hlisting : Work.Agrees Eq (a.listing inputs) (a'.listing inputs) := by
    refine hload.bind fun raws raws' hraws => (buildSet_agrees hraws).bind ?_
    rintro set _ rfl
    rw [hrest]
    exact .refl _
  unfold Arguments.answer
  rw [hrest]
  dsimp only
  split
  · exact .refl _
  split
  · exact .refl _
  · rw [← hrest]
    exact hlisting

variable {rest : List Bytes} {a : Arguments}

/-- **The run.**  Rules laid out in files, with whatever else is asked for, lead to the same status,
    the same output and the same diagnostics as these rules in arguments.  It makes no difference
    whether they are accepted. -/
theorem run_ruleFiles_eq_run_rules (program : Bytes) (output : Sink)
    (haccepted : Arguments.ofArgs rest = .ok a) (hrules : a.rules = []) (hfiles : a.ruleFiles = [])
    (htexts : ∀ text ∈ texts, RulesFile.IsRuleLine text) (hhold : inputs.Hold paths texts) :
    let ofFiles := run (program :: (paths.map Opt.filterFile.assign ++ rest)) inputs output
    let ofRules := run (program :: ((texts.map Bytes.ofString).map Opt.filter.assign ++ rest))
      inputs output
    ofFiles.status = ofRules.status ∧ ofFiles.output = ofRules.output ∧
      ofFiles.diagnostics = ofRules.diagnostics := by
  have hleft := Arguments.ofArgs_ruleFiles_append haccepted paths
  have hright := Arguments.ofArgs_rules_append haccepted (texts.map Bytes.ofString)
  have hagrees : Work.Agrees Eq ((a.behind [] paths).answer inputs)
      ((a.behind (texts.map Bytes.ofString) []).answer inputs) := by
    refine answer_agrees rfl ?_ ?_ ?_
    · simpa [Arguments.SourcesReadable, Arguments.sources, Arguments.behind, hfiles]
        using hhold.readable
    · simp [Arguments.SourcesReadable, Arguments.sources, Arguments.behind, hfiles]
    · simp [Arguments.ruleTexts, Arguments.sources, Arguments.behind, hfiles, hrules,
        hhold.flatten_rulesEach htexts, Source.rulesEach, Bytes.toText_ofString,
        Function.comp_def]
  have h := deliver_agrees hagrees output
  unfold run
  simp only [List.tail_cons, hleft, hright]
  exact h

/-- A comment, either kind of line end, blanks on either side, and a text that is no rule. -/
theorem run_ruleFiles_eq_run_rules_of_rejected :
    let inputs : Inputs := {
      file := fun path =>
        if path = .ofString "a" then .ok (.ofString "# Names\r\n  KeepName(x) \r\n")
        else .ok (.ofString "\nDrop(x)")
      standardInput := .ok [] }
    let rest := ["--json", "Table:dbo.x"].map Bytes.ofString
    let ofFiles := run (.ofString "schema-filter" ::
      ((["a", "b"].map Bytes.ofString).map Opt.filterFile.assign ++ rest)) inputs {}
    let ofRules := run (.ofString "schema-filter" ::
      ((["KeepName(x) ", "Drop(x)"].map Bytes.ofString).map Opt.filter.assign ++ rest)) inputs {}
    ofFiles.status = ofRules.status ∧ ofFiles.output = ofRules.output ∧
      ofFiles.diagnostics = ofRules.diagnostics := by
  intro inputs rest
  have haccepted : Arguments.ofArgs rest = .ok
      { json := true, objects := [Bytes.ofString "Table:dbo.x"] } := rfl
  have htexts : ∀ text ∈ ["KeepName(x) ", "Drop(x)"], RulesFile.IsRuleLine text := by
    decide
  have hempty : RulesFile.IsLine none [] := @RulesFile.IsLine.blank [] rfl
  have hcomment : RulesFile.IsLine none (.ofString "# Names") :=
    @RulesFile.IsLine.comment [] '#' (.ofString " Names") rfl (by decide)
  have hname : RulesFile.IsLine (some "KeepName(x) ") (.ofString "  KeepName(x) ") :=
    @RulesFile.IsLine.rule [' ', ' '] [] _ rfl rfl
  have hdrop : RulesFile.IsLine (some "Drop(x)") (.ofString "Drop(x)") :=
    @RulesFile.IsLine.rule [] [] _ rfl rfl
  have hfirst := RulesFile.LaysOut.line hcomment (by decide)
    (by decide : [13, 10] ∈ RulesFile.lineEnds)
    (.line hname (by decide) (by decide : [13, 10] ∈ RulesFile.lineEnds)
      (.last hempty (by decide)))
  have hsecond := RulesFile.LaysOut.line hempty (by decide)
    (by decide : [10] ∈ RulesFile.lineEnds) (.last hdrop (by decide))
  have hhold : inputs.Hold (["a", "b"].map Bytes.ofString) ["KeepName(x) ", "Drop(x)"] :=
    .file (by decide) rfl hfirst (.file (by decide) rfl hsecond .none)
  exact run_ruleFiles_eq_run_rules (.ofString "schema-filter") {} haccepted rfl rfl htexts hhold

end Command

end SchemaFilter
