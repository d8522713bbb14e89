import SchemaFilter.Command.Source
import SchemaFilter.Proofs.Filter.Events

/-!
# What is loaded from sources

Sources are read one after another.  What one of them gives depends on those before it only where
it is standard input, which is empty once it has been read.

* `Source.contentBehind` — what a source gives behind others;
* `Source.rulesEach` — the rules in each of some sources;
* `loadAll_append` — loading goes through all sources that can be read;
* `loadAll_eq_of_readable`, `loadAll_eq_of_failure` — what is loaded where all of them can be read,
  and where one cannot;
* `Source.Contributes` — what each of some arguments contributes;
* `Source.LoadsUpTo` — what there is when a part of the arguments has been loaded;
* `Source.loadAll_ofArg` — **loading** arguments goes as far as the first that cannot be read.
-/

namespace SchemaFilter

/-- What can be read after some sources have been. -/
def Inputs.afterAll (inputs : Inputs) (sources : List Source) : Inputs :=
  sources.foldl (fun inputs source => source.after inputs) inputs

namespace Source

variable {inputs : Inputs}

/-! ### What a source gives -/

/-- The source can be read, at least if it is the first. -/
def IsReadable (inputs : Inputs) (source : Source) : Prop :=
  ∃ bytes, source.read inputs = .ok bytes

/-- What a source gives behind others: standard input is empty for all but the first that read
    it. -/
def contentBehind (inputs : Inputs) (earlier : List Source) :
    Source → Except SystemError Bytes
  | file path => inputs.file path
  | standardInput => if standardInput ∈ earlier then .ok [] else inputs.standardInput

/-- The rules in a source behind others, none where it cannot be read. -/
def rulesBehind (inputs : Inputs) (earlier : List Source) (source : Source) : List String :=
  match source.contentBehind inputs earlier with
  | .ok bytes => RulesFile.rules bytes
  | .error _ => []

/-- The rules in each of some sources, which stand behind others. -/
def rulesEach (inputs : Inputs) : (earlier : List Source) → List Source → List (List String)
  | _, [] => []
  | earlier, source :: sources =>
    source.rulesBehind inputs earlier :: rulesEach inputs (earlier ++ [source]) sources

/-- The events that tell of sources and of the rules in each. -/
def loadedEvents (sources : List Source) (rules : List (List String)) : List Event :=
  List.zipWith (fun source rules => .rulesLoaded source.shown rules.length) sources rules

/-- What a source gives behind others is what can be read of it after they have been. -/
theorem read_afterAll (inputs : Inputs) (earlier : List Source) (source : Source) :
    source.read (inputs.afterAll earlier) = source.contentBehind inputs earlier := by
  induction earlier generalizing inputs with
  | nil => cases source <;> rfl
  | cons first others ih =>
    rw [Inputs.afterAll, List.foldl_cons, ← Inputs.afterAll, ih]
    cases first <;> cases source <;> simp [after, contentBehind]

/-- Where the first source that is standard input can be read, so can the others. -/
theorem IsReadable.contentBehind {source : Source} (h : source.IsReadable inputs)
    (earlier : List Source) : ∃ bytes, source.contentBehind inputs earlier = .ok bytes := by
  cases source with
  | file path => exact h
  | standardInput =>
    by_cases hearlier : standardInput ∈ earlier
    · exact ⟨[], if_pos hearlier⟩
    · obtain ⟨bytes, hbytes⟩ := h
      exact ⟨bytes, (if_neg hearlier).trans hbytes⟩

/-- Where a source is the first that cannot be read, those before it make no difference. -/
theorem contentBehind_eq_error {source : Source} {cause : SystemError} {earlier : List Source}
    (hearlier : ∀ s ∈ earlier, s.IsReadable inputs) (h : source.read inputs = .error cause) :
    source.contentBehind inputs earlier = .error cause := by
  cases source with
  | file path => exact h
  | standardInput =>
    -- If it had been read before, it would have failed before.
    have hmem : standardInput ∉ earlier := by
      intro hmem
      obtain ⟨bytes, hbytes⟩ := hearlier _ hmem
      exact absurd (h.symm.trans hbytes) (by simp)
    exact (if_neg hmem).trans h

/-! ### Loading -/

/-- Loading goes through all sources that can be read: it puts the rules of each behind those that
    there are, tells of them, and goes on with what follows. -/
theorem loadAll_append {sources : List Source} (hread : ∀ s ∈ sources, s.IsReadable inputs)
    (earlier : List Source) (rules : List String) (more : List Source) :
    loadAll (inputs.afterAll earlier) rules (sources ++ more) =
      let rest := loadAll (inputs.afterAll (earlier ++ sources))
        (rules ++ (rulesEach inputs earlier sources).flatten) more
      ⟨rest.value, loadedEvents sources (rulesEach inputs earlier sources) ++ rest.events⟩ := by
  -- Each step moves one source over to those that have been read, and its rules to the others.
  induction sources generalizing earlier rules with
  | nil => simp [rulesEach, loadedEvents]
  | cons source sources ih =>
    obtain ⟨bytes, hbytes⟩ :=
      (hread source List.mem_cons_self).contentBehind earlier
    have hafter : source.after (inputs.afterAll earlier) =
        inputs.afterAll (earlier ++ [source]) := by
      simp [Inputs.afterAll]
    have hrules : source.rulesBehind inputs earlier = RulesFile.rules bytes := by
      rw [rulesBehind, hbytes]
    rw [List.cons_append, loadAll, read_afterAll, hbytes]
    dsimp only
    rw [hafter, ih fun s hs => hread s (List.mem_cons_of_mem source hs)]
    simp only [rulesEach, hrules, List.flatten_cons, List.append_assoc, List.singleton_append]
    rfl

/-- Where all sources can be read, their rules are loaded in order. -/
theorem loadAll_eq_of_readable {sources : List Source}
    (hread : ∀ s ∈ sources, s.IsReadable inputs) (rules : List String) :
    loadAll inputs rules sources =
      ⟨{ rules := rules ++ (rulesEach inputs [] sources).flatten },
        loadedEvents sources (rulesEach inputs [] sources)⟩ := by
  have h := loadAll_append hread [] rules []
  rw [List.append_nil] at h
  refine h.trans ?_
  simp [loadAll]

/-- Where a source cannot be read, the rules of those before it are loaded, and it is blamed. -/
theorem loadAll_eq_of_failure {before after : List Source} {source : Source}
    {cause : SystemError} (hread : ∀ s ∈ before, s.IsReadable inputs)
    (hcause : source.read inputs = .error cause) (rules : List String) :
    loadAll inputs rules (before ++ source :: after) =
      ⟨{ rules := rules ++ (rulesEach inputs [] before).flatten
         failure := some ⟨source, cause⟩ },
        loadedEvents before (rulesEach inputs [] before)⟩ := by
  refine (loadAll_append hread [] rules (source :: after)).trans ?_
  simp [loadAll, read_afterAll, contentBehind_eq_error hread hcause]

/-- All sources can be read, or there is a first that cannot. -/
theorem readable_or_exists_failure (inputs : Inputs) (sources : List Source) :
    (∀ s ∈ sources, s.IsReadable inputs) ∨
      ∃ before source after cause, sources = before ++ source :: after ∧
        (∀ s ∈ before, s.IsReadable inputs) ∧ source.read inputs = .error cause := by
  cases h : sources.mapM (Source.read inputs) with
  | error cause =>
    obtain ⟨before, source, after, hsplit, hbefore, hcause⟩ := mapM_eq_error_iff.mp h
    exact .inr ⟨before, source, after, cause, hsplit, hbefore, hcause⟩
  | ok contents => exact .inl (exists_mapM_eq_ok_iff.mp ⟨contents, h⟩)

/-! ### Arguments -/

theorem ofArg_of_ne_mark {arg : Bytes} (h : arg ≠ standardInputMark) : ofArg arg = file arg :=
  if_neg h

theorem ofArg_eq_standardInput_iff {arg : Bytes} :
    ofArg arg = standardInput ↔ arg = standardInputMark := by
  by_cases h : arg = standardInputMark
  · simp [ofArg, h]
  · simp [ofArg_of_ne_mark h, h]

/-- What each of some arguments contributes, in order: a file its rules, however often it is named;
    the first mark of standard input the rules there, and those behind it nothing. -/
structure Contributes (inputs : Inputs) (args : List Bytes) (rules : List (List String)) :
    Prop where
  length_eq : rules.length = args.length
  ofFile : ∀ {place : Nat} {path bytes : Bytes}, args[place]? = some path →
    path ≠ standardInputMark → inputs.file path = .ok bytes →
      rules[place]? = some (RulesFile.rules bytes)
  ofFirstMark : ∀ {place : Nat} {bytes : Bytes}, args[place]? = some standardInputMark →
    standardInputMark ∉ args.take place → inputs.standardInput = .ok bytes →
      rules[place]? = some (RulesFile.rules bytes)
  ofLaterMark : ∀ {place : Nat}, args[place]? = some standardInputMark →
    standardInputMark ∈ args.take place → rules[place]? = some []

/-- The rules of each source are those that it has behind the sources before it. -/
theorem getElem?_rulesEach (inputs : Inputs) (earlier sources : List Source) (place : Nat) :
    (rulesEach inputs earlier sources)[place]? =
      sources[place]?.map (·.rulesBehind inputs (earlier ++ sources.take place)) := by
  induction sources generalizing earlier place with
  | nil => rfl
  | cons source sources ih =>
    cases place with
    | zero => simp [rulesEach]
    | succ place =>
      rw [rulesEach, List.getElem?_cons_succ, ih, List.getElem?_cons_succ, List.take_succ_cons,
        List.append_assoc, List.singleton_append]

theorem length_rulesEach (inputs : Inputs) (earlier sources : List Source) :
    (rulesEach inputs earlier sources).length = sources.length := by
  induction sources generalizing earlier with
  | nil => rfl
  | cons source sources ih => rw [rulesEach, List.length_cons, ih, List.length_cons]

theorem rulesEach_append (inputs : Inputs) (earlier sources more : List Source) :
    rulesEach inputs earlier (sources ++ more) =
      rulesEach inputs earlier sources ++ rulesEach inputs (earlier ++ sources) more := by
  induction sources generalizing earlier with
  | nil => simp [rulesEach]
  | cons source sources ih => simp [rulesEach, ih]

theorem contributes_rulesEach (inputs : Inputs) (args : List Bytes) :
    Contributes inputs args (rulesEach inputs [] (args.map ofArg)) := by
  have hrules {place : Nat} {arg bytes : Bytes} (harg : args[place]? = some arg)
      (h : (ofArg arg).contentBehind inputs ((args.take place).map ofArg) = .ok bytes) :
      (rulesEach inputs [] (args.map ofArg))[place]? = some (RulesFile.rules bytes) := by
    rw [getElem?_rulesEach, List.getElem?_map, harg, ← List.map_take, List.nil_append,
      Option.map_some, Option.map_some, rulesBehind, h]
  have hmem {place : Nat} : standardInput ∈ (args.take place).map ofArg ↔
      standardInputMark ∈ args.take place := by
    simp only [List.mem_map, ofArg_eq_standardInput_iff, exists_eq_right]
  have hmark : ofArg standardInputMark = standardInput := if_pos rfl
  refine ⟨?_, ?_, ?_, ?_⟩
  · rw [length_rulesEach, List.length_map]
  · intro place path bytes harg hpath hread
    refine hrules harg ?_
    rw [ofArg_of_ne_mark hpath]
    exact hread
  · intro place bytes harg hfirst hread
    refine hrules harg ?_
    rw [hmark, contentBehind, if_neg (mt hmem.mp hfirst), hread]
  · intro place harg hlater
    -- No bytes hold no rules.
    refine @hrules place standardInputMark [] harg ?_
    rw [hmark, contentBehind, if_pos (hmem.mpr hlater)]

/-- The event tells of a source that was loaded, and of the number of its rules. -/
def TellsOfLoading (arg : Bytes) (rules : List String) (event : Event) : Prop :=
  event.Says .debug Event.commandTarget "loaded filter rules" [
    ⟨"source", .text (ofArg arg).shown⟩, ⟨"rules", .count rules.length⟩]

/-- What there is when the first `count` arguments have been loaded, of which each contributes some
    rules, and no others: the rules behind those that there were, and one event for each. -/
structure LoadsUpTo (count : Nat) (args : List Bytes) (rules : List String)
    (more : List (List String)) (loaded : Traced Event Loaded) : Prop where
  rules_eq : loaded.value.rules = rules ++ (more.take count).flatten
  told : List.Forall₂ (fun source event => TellsOfLoading source.1 source.2 event)
    ((args.take count).zip (more.take count)) loaded.events

theorem tellsOfLoading_loadedEvents (args : List Bytes) (rules : List (List String)) :
    List.Forall₂ (fun source event => TellsOfLoading source.1 source.2 event) (args.zip rules)
      (loadedEvents (args.map ofArg) rules) := by
  rw [loadedEvents, List.zipWith_map_left, ← List.map_uncurry_zip_eq_zipWith,
    List.forall₂_map_right_iff, List.forall₂_same]
  exact fun source _ => ⟨rfl, rfl, rfl, rfl⟩

/-- What was loaded of the first of some arguments was loaded up to the others. -/
theorem loadsUpTo_length (inputs : Inputs) (rules : List String) (args others : List Bytes)
    (failure : Option SourceError) :
    LoadsUpTo args.length (args ++ others) rules
      (rulesEach inputs [] ((args ++ others).map ofArg))
      ⟨{ rules := rules ++ (rulesEach inputs [] (args.map ofArg)).flatten, failure },
        loadedEvents (args.map ofArg) (rulesEach inputs [] (args.map ofArg))⟩ := by
  have hargs : (args ++ others).take args.length = args := List.take_left
  have hrules : (rulesEach inputs [] ((args ++ others).map ofArg)).take args.length =
      rulesEach inputs [] (args.map ofArg) := by
    rw [List.map_append, rulesEach_append]
    exact List.take_left' (by rw [length_rulesEach, List.length_map])
  constructor
  · rw [hrules]
  · rw [hargs, hrules]
    exact tellsOfLoading_loadedEvents args _

/-- The error blames the source that an argument names, and says why it cannot be read. -/
structure Blames (arg : Bytes) (cause : SystemError) (e : SourceError) : Prop where
  source_eq : e.source = ofArg arg
  cause_eq : e.cause = cause
  message_eq : e.message =
    if arg = standardInputMark then
      "failed to read filter rules from standard input: " ++ cause.message
    else
      "failed to read filter file '" ++ arg.toText ++ "': " ++ cause.message

theorem blames_ofArg (arg : Bytes) (cause : SystemError) : Blames arg cause ⟨ofArg arg, cause⟩ where
  source_eq := rfl
  cause_eq := rfl
  message_eq := by
    by_cases h : arg = standardInputMark
    · rw [if_pos h, ofArg_eq_standardInput_iff.mpr h]
      rfl
    · rw [if_neg h, ofArg_of_ne_mark h]
      rfl

/-- **Loading.**  The sources that arguments name are loaded in order, each with what it
    contributes, if all of them can be read.  Otherwise the first that cannot be read is blamed, and
    there is what was loaded from those before it. -/
theorem loadAll_ofArg (inputs : Inputs) (rules : List String) (args : List Bytes) :
    let loaded := loadAll inputs rules (args.map ofArg)
    ∃ more, Contributes inputs args more ∧
      ((∀ arg ∈ args, (ofArg arg).IsReadable inputs) ∧ loaded.value.failure = none ∧
          LoadsUpTo args.length args rules more loaded ∨
        ∃ place arg cause, args[place]? = some arg ∧
          (∀ earlier ∈ args.take place, (ofArg earlier).IsReadable inputs) ∧
          (ofArg arg).read inputs = .error cause ∧
          (∃ e, loaded.value.failure = some e ∧ Blames arg cause e) ∧
          LoadsUpTo place args rules more loaded) := by
  intro loaded
  refine ⟨rulesEach inputs [] (args.map ofArg), contributes_rulesEach inputs args, ?_⟩
  rcases readable_or_exists_failure inputs (args.map ofArg) with
    hread | ⟨before, source, after, cause, hsplit, hbefore, hcause⟩
  · left
    have hloaded : loaded = _ := loadAll_eq_of_readable hread rules
    have hupTo := loadsUpTo_length inputs rules args [] none
    rw [List.append_nil] at hupTo
    rw [hloaded]
    exact ⟨List.forall_mem_map.mp hread, rfl, hupTo⟩
  · right
    -- Where the sources are split, so are the arguments that name them.
    obtain ⟨args₁, args₂, rfl, rfl, htail⟩ := List.map_eq_append_iff.mp hsplit
    obtain ⟨arg, others, rfl, rfl, -⟩ := List.map_eq_cons_iff.mp htail
    have hloaded : loadAll inputs rules (args₁.map ofArg ++ ofArg arg :: others.map ofArg) = _ :=
      loadAll_eq_of_failure hbefore hcause rules
    rw [← List.map_cons, ← List.map_append] at hloaded
    rw [show loaded = _ from hloaded]
    refine ⟨args₁.length, arg, cause, ?_, ?_, hcause, ⟨_, rfl, blames_ofArg arg cause⟩,
      loadsUpTo_length inputs rules args₁ (arg :: others) _⟩
    · simp
    · rw [List.take_left]
      exact List.forall_mem_map.mp hbefore

/-- Standard input is read for the first mark only, and a path may have the mark in it. -/
example :
    (loadAll ⟨fun _ => .ok (.ofString "KeepName(a)"), .ok (.ofString "KeepName(b)\n# end")⟩ []
      (["-", "./-", "-"].map fun arg => ofArg (.ofString arg))).value.rules =
        ["KeepName(b)", "KeepName(a)"] := by
  decide

end Source

end SchemaFilter
