import SchemaFilter.Proofs.Command.InlineRules
import SchemaFilter.Proofs.Rule.Canonical

/-!
# A listing as a rules file

The command lists rules each on a line, in the text that they are read from again.  So a listing is
a rules file, and listing what it says gives it back.  Only a line end inside a rule stands in the
way, which no rule from a file can have.

* `Rule.newline_notMem_text` — a rule has no line end unless the text that it is read from has one;
* `RulesFile.laysOut_ruleLines` — a listing lays out the texts of its rules;
* `run_listing_again` — **the listing** is read as the rules that it lists, and listed as it is.
-/

namespace SchemaFilter

/-! ### Line ends in rules -/

namespace Rule

/-- What a form says holds nothing that its content does not hold. -/
theorem Form.mem_content_of_mem_rule {form : Form} {c : Char}
    (hc : c ∈ form.rule.pattern.toList ∨ ∃ option ∈ form.rule.options, c ∈ option.toList) :
    c ∈ form.content := by
  by_cases hverbatim : form.IsVerbatim
  · rw [Form.rule, if_pos hverbatim] at hc
    rcases hc with hc | ⟨option, hoption, -⟩
    · simpa using hc
    · exact absurd hoption (by simp)
  · rw [Form.rule, if_neg hverbatim] at hc
    rcases hc with hc | ⟨option, hoption, hc⟩
    · rw [String.toList_ofList, Form.primary, if_neg hverbatim] at hc
      exact List.takeWhile_subset _ (mem_of_mem_trim hc)
    · obtain ⟨text, htext, rfl⟩ := List.mem_map.mp hoption
      obtain ⟨piece, hpiece, rfl⟩ := List.mem_map.mp (List.mem_filter.mp htext).1
      rw [String.toList_ofList] at hc
      exact mem_of_mem_splitOn (List.mem_of_mem_tail hpiece) (mem_of_mem_trim hc)

theorem Header.newline_notMem_chars (header : Header) : '\n' ∉ header.chars := by
  obtain ⟨operation, declared, polarity⟩ := header
  cases operation <;> cases declared <;> cases polarity <;> decide

/-- A line end in the text of a rule stands in its pattern or in an option. -/
theorem newline_mem_text {rule : Rule} (h : '\n' ∈ rule.text.toList) :
    '\n' ∈ rule.pattern.toList ∨ ∃ option ∈ rule.options, '\n' ∈ option.toList := by
  have hheader := rule.form.header.newline_notMem_chars
  have hcontent : '\n' ∈ rule.form.content := by
    rw [toList_text, Form.chars] at h
    simpa [hheader] using h
  simpa [form, contentChars] using hcontent

/-- A rule has no line end unless the text that it is read from has one. -/
theorem newline_notMem_text {raw : String} {rule : Rule} (hparse : parse raw = .ok rule)
    (hraw : '\n' ∉ raw.toList) : '\n' ∉ rule.text.toList := by
  obtain ⟨form, hchars, -, rfl⟩ := parseChars_eq_ok_iff.mp (parse_eq_ok_iff.mp hparse)
  intro h
  have hcontent : '\n' ∈ form.content := Form.mem_content_of_mem_rule (newline_mem_text h)
  have hform : '\n' ∈ trim raw.toList := by
    rw [hchars, Form.chars]
    simp [hcontent]
  exact hraw (mem_of_mem_trim hform)

/-- A rule without line ends can stand on a line. -/
theorem isRuleLine_text {rule : Rule} (h : '\n' ∉ rule.text.toList) :
    RulesFile.IsRuleLine rule.text := by
  have htrim : trim rule.text.toList = rule.text.toList :=
    trimmed_eq_self_iff.mp rule.trimmed_text
  rw [RulesFile.IsRuleLine, htrim]
  refine ⟨h, ?_⟩
  rw [text, String.toList_ofList, chars]
  -- Which character comes first depends on the operation only.
  cases rule.operation <;> simp [Operation.keyword, RulesFile.commentMarks]

end Rule

/-! ### Listings as files -/

namespace RulesFile

/-- Texts that stand each on a line are laid out. -/
theorem laysOut_lines {texts : List String} (h : ∀ text ∈ texts, '\n' ∉ text.toList) :
    LaysOut texts (encode (texts.flatMap fun text => Listing.line text.toList)) := by
  induction texts with
  | nil => exact .last (@IsLine.blank [] rfl) (by simp)
  | cons text texts ih =>
    obtain ⟨htext, htexts⟩ := List.forall_mem_cons.mp h
    have hline : IsLine (some text) (encode text.toList) := by
      simpa using @IsLine.rule [] [] text rfl rfl
    have hbytes : newline ∉ encode text.toList := by rwa [newline_mem_encode_iff]
    rw [List.flatMap_cons, Listing.line, encode_append, encode_append]
    exact .line hline hbytes List.mem_cons_self (ih htexts)

/-- A listing lays out the texts of its rules. -/
theorem laysOut_ruleLines {set : FilterSet} (h : ∀ rule ∈ set.rules, '\n' ∉ rule.text.toList) :
    LaysOut (set.rules.map Rule.text) (.ofString (Listing.ruleLines set)) := by
  have hlines := laysOut_lines (List.forall_mem_map.mpr h)
  rw [List.flatMap_map] at hlines
  rw [Bytes.ofString, Listing.ruleLines, String.toList_ofList]
  simpa [Rule.text] using hlines

/-- What a listing says is the texts of its rules. -/
theorem rules_ruleLines {set : FilterSet} (h : ∀ rule ∈ set.rules, '\n' ∉ rule.text.toList) :
    rules (.ofString (Listing.ruleLines set)) = set.rules.map Rule.text := by
  have hlines : ∀ text ∈ set.rules.map Rule.text, IsRuleLine text :=
    List.forall_mem_map.mpr fun rule hrule => Rule.isRuleLine_text (h rule hrule)
  rw [rules_of_laysOut (laysOut_ruleLines h) hlines, List.map_map]
  exact List.map_congr_left fun rule _ => rule.trimmed_text

end RulesFile

/-- No text in a source has a line end. -/
theorem Source.newline_notMem_of_mem_rulesEach {inputs : Inputs} {earlier sources : List Source}
    {text : String} (h : text ∈ (rulesEach inputs earlier sources).flatten) :
    '\n' ∉ text.toList := by
  induction sources generalizing earlier with
  | nil => exact absurd h (by simp [rulesEach])
  | cons source sources ih =>
    rw [rulesEach, List.flatten_cons, List.mem_append] at h
    rcases h with h | h
    · unfold rulesBehind at h
      split at h
      · exact RulesFile.newline_notMem_of_mem_rules h
      · exact absurd h (by simp)
    · exact ih h

/-! ### What is written -/

/-- A sink that confirms some bytes has them behind what it has. -/
theorem Sink.written_deliver {sink : Sink} {bytes : Bytes} (h : (sink.deliver bytes).2 = none) :
    (sink.deliver bytes).1.written = sink.written ++ bytes := by
  obtain ⟨room, flushFails, written⟩ := sink
  cases room with
  | none => rfl
  | some room =>
    have hroom : bytes.length ≤ room := by
      by_contra hfull
      simp [deliver, write, hfull] at h
    show written ++ bytes.take room = written ++ bytes
    rw [List.take_of_length_le hroom]

namespace Command

/-- A run succeeds exactly if there is a text, and the output confirms it. -/
theorem status_deliver_eq_success_iff {output : Sink} {answer : Traced Note (Option String)} :
    (deliver output answer).status = Outcome.success ↔
      ∃ text, answer.value = some text ∧ (output.deliver (.ofString text)).2 = none := by
  unfold deliver
  split
  · rename_i hvalue
    simp [hvalue, Outcome.success, Outcome.failure]
  · rename_i text hvalue
    split
    · rename_i hdeliver
      simp [hvalue, hdeliver]
    · rename_i hdeliver
      simp [hvalue, hdeliver, Outcome.success, Outcome.failure]

/-- What is confirmed is written, and nothing is told about it. -/
theorem deliver_of_confirmed {output : Sink} {answer : Traced Note (Option String)} {text : String}
    (hvalue : answer.value = some text) (h : (output.deliver (.ofString text)).2 = none) :
    (deliver output answer).output.written = output.written ++ .ofString text ∧
      (deliver output answer).diagnostics = diagnosticText answer.events := by
  rw [← Sink.written_deliver h, deliver, hvalue]
  dsimp only
  split
  · rename_i hdeliver
    rw [hdeliver]
    exact ⟨rfl, rfl⟩
  · rename_i hdeliver
    exact absurd h (by simp [hdeliver])

/-! ### What is listed -/

variable {a : Arguments} {inputs : Inputs}

/-- Where every step succeeds, there is a listing, and nothing is told. -/
theorem listing_of_succeeds (h : a.Succeeds inputs) :
    ∃ text, (a.listing inputs).run.value = some text ∧ a.Lists inputs text ∧
      diagnosticText (a.listing inputs).run.events = "" := by
  have hmeets := listing_meets a inputs
  unfold Work.Meets at hmeets
  split at hmeets
  · rename_i text hvalue
    exact ⟨text, hvalue, hmeets.1.2, hmeets.2⟩
  · exact absurd h hmeets.not_succeeds

/-- Without objects and JSON, a listing is that of the rules. -/
theorem lists_ruleLines {text : String} (hobjects : a.objects = []) (hjson : a.json = false)
    (h : a.Lists inputs text) :
    ∃ set : FilterSet, a.ReadsRules inputs set.rules ∧ text = Listing.ruleLines set := by
  obtain ⟨set, objects, hrules, -, rfl⟩ := h
  exact ⟨set, hrules, by simp [hobjects, hjson]⟩

/-- A file that says the rules of a set makes the command list that set. -/
theorem run_ruleFile {set : FilterSet} {path bytes : Bytes} (program : Bytes) {output : Sink}
    (hread : (Source.ofArg path).read inputs = .ok bytes)
    (hrules : (RulesFile.rules bytes).mapM Rule.parse = .ok set.rules)
    (houtput : (output.deliver (.ofString (Listing.ruleLines set))).2 = none) :
    let o := run [program, Opt.filterFile.assign path] inputs output
    o.status = 0 ∧ o.output.written = output.written ++ .ofString (Listing.ruleLines set) ∧
      o.diagnostics = "" := by
  intro o
  let a := ({} : Arguments).behind [] [path]
  have haccepted : Arguments.ofArgs [Opt.filterFile.assign path] = .ok a :=
    Arguments.ofArgs_ruleFiles_append (show Arguments.ofArgs [] = .ok {} from rfl) [path]
  have hrun : o = deliver output (a.listing inputs).run :=
    run_eq_deliver_listing inputs output haccepted rfl rfl
  have hbehind : (Source.ofArg path).rulesBehind inputs [] = RulesFile.rules bytes := by
    rw [Source.rulesBehind, ← Source.read_afterAll, show inputs.afterAll [] = inputs from rfl, hread]
  have htexts : a.ruleTexts inputs = RulesFile.rules bytes := by
    show [] ++ [(Source.ofArg path).rulesBehind inputs []].flatten = _
    rw [hbehind, List.nil_append, List.flatten_singleton]
  have hreads : a.ReadsRules inputs set.rules := by
    rw [Arguments.ReadsRules, htexts, ← mapM_eq_ok_iff]
    exact hrules
  have hsources : a.SourcesReadable inputs := by
    intro source hsource
    rw [List.mem_singleton.mp (show source ∈ [Source.ofArg path] from hsource)]
    exact ⟨bytes, hread⟩
  have hsucceeds : a.Succeeds inputs :=
    ⟨hsources, hreads.rulesParse,
      hreads.patternsCompile_iff.mpr fun rule h => FilterSet.compiles_of_mem_rules h,
      fun arg harg => absurd harg List.not_mem_nil⟩
  obtain ⟨text, hvalue, hlists, htold⟩ := listing_of_succeeds hsucceeds
  obtain ⟨set', hreads', rfl⟩ := lists_ruleLines rfl rfl hlists
  have hsame : set'.rules = set.rules :=
    Except.ok.inj ((mapM_eq_ok_iff.mpr hreads').symm.trans (mapM_eq_ok_iff.mpr hreads))
  have hlines : Listing.ruleLines set' = Listing.ruleLines set := by
    rw [Listing.ruleLines, hsame, Listing.ruleLines]
  rw [hlines] at hvalue
  obtain ⟨hwritten, hdiagnostics⟩ := deliver_of_confirmed hvalue houtput
  rw [hrun]
  exact ⟨status_deliver_eq_success_iff.mpr ⟨_, hvalue, houtput⟩, hwritten,
    hdiagnostics.trans htold⟩

/-- **The listing.**  Where the command succeeds in listing rules, what it writes is a rules file:
    it says each of these rules on a line, and given that file, the command writes the same again.
    That is so unless a rule has a line end in it, which must come from an argument. -/
theorem run_listing_again {args : List Bytes} {output : Sink}
    (haccepted : Arguments.ofArgs args.tail = .ok a) (hhelp : a.help = false)
    (hversion : a.version = false) (hobjects : a.objects = []) (hjson : a.json = false)
    (hsuccess : (run args inputs output).status = 0) :
    ∃ rules bytes, a.ReadsRules inputs rules ∧
      (run args inputs output).output.written = output.written ++ bytes ∧
      ((∀ arg ∈ a.rules, '\n' ∉ (Bytes.toText arg).toList) →
        ∀ rule ∈ rules, '\n' ∉ rule.text.toList) ∧
      ((∀ rule ∈ rules, '\n' ∉ rule.text.toList) →
        RulesFile.rules bytes = rules.map Rule.text ∧
        (RulesFile.rules bytes).mapM Rule.parse = .ok rules ∧
        ∀ program path inputs' output', (Source.ofArg path).read inputs' = .ok bytes →
          (output'.deliver bytes).2 = none →
          let again := run [program, Opt.filterFile.assign path] inputs' output'
          again.status = 0 ∧ again.output.written = output'.written ++ bytes ∧
            again.diagnostics = "") := by
  have hrun := run_eq_deliver_listing inputs output haccepted hhelp hversion
  rw [hrun] at hsuccess ⊢
  obtain ⟨text, hvalue, hconfirmed⟩ := status_deliver_eq_success_iff.mp hsuccess
  have hmeets := listing_meets a inputs
  rw [Work.Meets, hvalue] at hmeets
  obtain ⟨set, hrules, rfl⟩ := lists_ruleLines hobjects hjson hmeets.1.2
  refine ⟨set.rules, .ofString (Listing.ruleLines set), hrules,
    (deliver_of_confirmed hvalue hconfirmed).1, ?_, ?_⟩
  · intro hargs rule hrule
    obtain ⟨raw, hraw, hparse⟩ := (mem_iff_of_forall₂_eq_ok hrules).mp hrule
    refine Rule.newline_notMem_text hparse ?_
    rcases List.mem_append.mp hraw with hraw | hraw
    · obtain ⟨arg, harg, rfl⟩ := List.mem_map.mp hraw
      exact hargs arg harg
    · exact Source.newline_notMem_of_mem_rulesEach hraw
  · intro hlines
    have hsaid := RulesFile.rules_ruleLines hlines
    have hparse : (RulesFile.rules (.ofString (Listing.ruleLines set))).mapM Rule.parse =
        .ok set.rules := by
      rw [hsaid, mapM_eq_ok_iff, List.forall₂_map_left_iff, List.forall₂_same]
      intro rule hrule
      obtain ⟨raw, -, hraw⟩ := (mem_iff_of_forall₂_eq_ok hrules).mp hrule
      exact Rule.parse_text_of_parse hraw
    exact ⟨hsaid, hparse, fun program path inputs' output' hread houtput =>
      run_ruleFile program hread hparse houtput⟩

/-- A rule in an argument and one in a file, with blanks, a comment mark and a carriage return. -/
theorem run_listing_again_of_file :
    let inputs : Inputs := {
      file := fun _ => .ok (.ofString "KeepMultiPartName( #a;\r)\r\n")
      standardInput := .ok [] }
    let args := ["schema-filter", "-f", " IgnoreType( Table ,dbo)", "--filter-file=a"].map
      Bytes.ofString
    let o := run args inputs {}
    let again := run [.ofString "schema-filter", Opt.filterFile.assign (.ofString "b")]
      { inputs with file := fun _ => .ok o.output.written } {}
    o.status = 0 ∧ again.status = 0 ∧ again.output.written = o.output.written ∧
      again.diagnostics = "" := by
  intro inputs args
  have haccepted : Arguments.ofArgs args.tail = .ok
      { rules := [.ofString " IgnoreType( Table ,dbo)"], ruleFiles := [.ofString "a"] } := rfl
  have hsuccess : (run args inputs {}).status = 0 := by decide
  have hlisting := run_listing_again haccepted rfl rfl rfl rfl hsuccess
  -- From here on, it does not matter any more which run it was.
  generalize run args inputs {} = o at hsuccess hlisting ⊢
  obtain ⟨rules, bytes, -, hwritten, hargs, hfile⟩ := hlisting
  obtain ⟨-, -, hagain⟩ := hfile (hargs (by decide))
  rw [List.nil_append] at hwritten
  subst hwritten
  obtain ⟨hstatus, hsame, htold⟩ := hagain (.ofString "schema-filter") (.ofString "b")
    { inputs with file := fun _ => .ok o.output.written } {} rfl rfl
  rw [List.nil_append] at hsame
  exact ⟨hsuccess, hstatus, hsame, htold⟩

end Command

end SchemaFilter
