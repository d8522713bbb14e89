import SchemaFilter.Proofs.Command.Options
import SchemaFilter.Proofs.Command.Outcome
import SchemaFilter.Proofs.Filter.Verdicts

/-!
# What the log makes no difference to

How verbose the program is, is said by flags and by a setting.  Neither makes a difference to what
the program does: it ends with the same code, writes the same output, and tells its user the same.
Of what it tells observers on the way, the log shows the events that it enables.

* `diagnosticsOf`, `eventsOf` — the two kinds of notes;
* `Shows` — a text of all diagnostics and of the events that a log enables, in order;
* `Arguments.evaluation`, `Emits` — all that is told of a run;
* `Log.Traces` — the logs that show how rules are evaluated;
* `shows_stderr` — what the program shows its user of all that;
* `program_of_rejected` — what it does where its arguments are wrong;
* `program_log_independent` — **logging** observes a run, and makes no difference to it;
* `program_usage_names_flags` — why that is said of arguments that are accepted.
-/

namespace SchemaFilter

/-! ### Levels -/

/-- The log is at the level of traces for what is told of the evaluation of rules. -/
def Log.Traces (log : Log) : Prop :=
  ∃ object rule found applies directive,
    log.directiveFor? (.ruleEvaluated object rule found applies) = some directive ∧
      directive.least = some .trace

/-- Which directive counts for the evaluation of a rule does not depend on how it went. -/
theorem Log.directiveFor?_ruleEvaluated (log : Log) (object object' : SchemaObject)
    (rule rule' : Rule) (found found' applies applies' : Bool) :
    log.directiveFor? (.ruleEvaluated object rule found applies) =
      log.directiveFor? (.ruleEvaluated object' rule' found' applies') := rfl

/-- Only at the level of traces it is logged how rules are evaluated. -/
theorem Log.enables_ruleEvaluated_iff {log : Log} {object : SchemaObject} {rule : Rule}
    {found applies : Bool} :
    log.enables (.ruleEvaluated object rule found applies) = true ↔ log.Traces := by
  -- An event is enabled from the least level on, and traces are the lowest level that there is.
  have hlevel (level : Level) : level.rank ≤ Level.trace.rank ↔ level = .trace := by
    cases level <;> decide
  show (((log.directiveFor? (.ruleEvaluated object rule found applies)).bind (·.least)).any
    (·.rank ≤ Level.trace.rank)) = true ↔ _
  simp only [Option.any_eq_true, Option.bind_eq_some_iff, decide_eq_true_eq, hlevel]
  constructor
  · rintro ⟨_, ⟨directive, hdirective, hleast⟩, rfl⟩
    exact ⟨object, rule, found, applies, directive, hdirective, hleast⟩
  · rintro ⟨object', rule', found', applies', directive, hdirective, hleast⟩
    rw [directiveFor?_ruleEvaluated log object' object rule' rule found' found applies' applies]
      at hdirective
    exact ⟨_, ⟨directive, hdirective, hleast⟩, rfl⟩

namespace Command

/-! ### Notes -/

/-- The diagnostics among some notes. -/
def diagnosticsOf (notes : List Note) : List String :=
  notes.filterMap fun
    | .event _ => none
    | .diagnostic text => some text

/-- The events among some notes. -/
def eventsOf (notes : List Note) : List Event :=
  notes.filterMap fun
    | .event event => some event
    | .diagnostic _ => none

/-- A note as it is written, where it is. -/
def Note.text : Note → String
  | .diagnostic text => text
  | .event told => told.logLine

/-- Is a note written?  Diagnostics always are. -/
def Note.isShown (log : Log) : Note → Bool
  | .diagnostic _ => true
  | .event told => log.enables told

theorem Note.render_eq (log : Log) (note : Note) :
    note.render log = if note.isShown log then note.text else "" := by
  cases note <;> rfl

/-- The text shows some notes, in the order in which they were told: all diagnostics, and of the
    events just those that the log enables. -/
def Shows (log : Log) (notes : List Note) (text : String) : Prop :=
  ∃ shown : List Note, shown.Sublist notes ∧
    diagnosticsOf shown = diagnosticsOf notes ∧
    eventsOf shown = (eventsOf notes).filter log.enables ∧
    text = String.join (shown.map Note.text)

@[simp] theorem diagnosticsOf_append (notes more : List Note) :
    diagnosticsOf (notes ++ more) = diagnosticsOf notes ++ diagnosticsOf more :=
  List.filterMap_append

@[simp] theorem eventsOf_append (notes more : List Note) :
    eventsOf (notes ++ more) = eventsOf notes ++ eventsOf more :=
  List.filterMap_append

@[simp] theorem diagnosticsOf_events (events : List Event) :
    diagnosticsOf (events.map .event) = [] := by
  rw [diagnosticsOf, List.filterMap_map, List.filterMap_eq_nil_iff]
  exact fun _ _ => rfl

@[simp] theorem eventsOf_events (events : List Event) : eventsOf (events.map .event) = events := by
  rw [eventsOf, List.filterMap_map]
  exact List.filterMap_some

/-- No diagnostic is left out. -/
theorem diagnosticsOf_filter_isShown (log : Log) (notes : List Note) :
    diagnosticsOf (notes.filter (·.isShown log)) = diagnosticsOf notes := by
  induction notes with
  | nil => rfl
  | cons note notes ih =>
    cases note with
    | diagnostic text => exact congrArg (text :: ·) ih
    | event told =>
      rw [List.filter_cons]
      split
      · exact ih
      · exact ih

theorem eventsOf_filter_isShown (log : Log) (notes : List Note) :
    eventsOf (notes.filter (·.isShown log)) = (eventsOf notes).filter log.enables := by
  induction notes with
  | nil => rfl
  | cons note notes ih =>
    cases note with
    | diagnostic text => exact ih
    | event told =>
      show eventsOf ((Note.event told :: notes).filter (·.isShown log)) =
        (told :: eventsOf notes).filter log.enables
      rw [List.filter_cons, List.filter_cons]
      show eventsOf (if log.enables told = true then _ else _) = _
      split
      · exact congrArg (told :: ·) ih
      · exact ih

/-- What is not written leaves no trace. -/
theorem join_render (log : Log) (notes : List Note) :
    String.join (notes.map (·.render log)) =
      String.join ((notes.filter (·.isShown log)).map Note.text) := by
  induction notes with
  | nil => rfl
  | cons note notes ih =>
    rw [List.map_cons, String.join_cons, ih, Note.render_eq, List.filter_cons]
    split
    · rw [List.map_cons, String.join_cons]
    · rw [String.empty_append]

/-- What notes are written as shows them. -/
theorem shows_render (log : Log) (notes : List Note) :
    Shows log notes (String.join (notes.map (·.render log))) :=
  ⟨notes.filter (·.isShown log), List.filter_sublist, diagnosticsOf_filter_isShown log notes,
    eventsOf_filter_isShown log notes, join_render log notes⟩

/-- Events that the log does not enable can be told without making a difference. -/
theorem Shows.append_events {log : Log} {notes : List Note} {text : String} {events : List Event}
    (h : Shows log notes text) (hevents : ∀ event ∈ events, log.enables event = false) :
    Shows log (notes ++ events.map .event) text := by
  obtain ⟨shown, hsublist, hdiagnostics, heventsOf, htext⟩ := h
  have hnone : events.filter log.enables = [] := by
    rw [List.filter_eq_nil_iff]
    exact fun event hevent => by simp [hevents event hevent]
  refine ⟨shown, hsublist.trans (List.sublist_append_left _ _), ?_, ?_, htext⟩
  · rw [hdiagnostics, diagnosticsOf_append, diagnosticsOf_events, List.append_nil]
  · rw [heventsOf, eventsOf_append, eventsOf_events, List.filter_append, hnone, List.append_nil]

/-! ### What is told of a run -/

/-- The events that evaluating rules tells of: of each object in turn, one for each rule. -/
def Arguments.evaluation (a : Arguments) (inputs : Inputs) : List Event :=
  if a.help || a.version then [] else evaluated.getD []
where
  /-- The events, if it comes to the evaluation. -/
  evaluated : Option (List Event) := do
    let raws ← (a.loadRules inputs).run.value
    let set ← (buildSet raws).run.value
    let objects ← (readObjects a.objects).run.value
    return objects.flatMap fun argument => (set.verdictsTraced argument.object).events

/-- What evaluating rules tells of is how they are evaluated on objects, if there are any. -/
theorem Arguments.mem_evaluation {a : Arguments} {inputs : Inputs} {event : Event}
    (h : event ∈ a.evaluation inputs) :
    a.objects ≠ [] ∧ ∃ object rule found applies,
      event = .ruleEvaluated object rule found applies := by
  unfold evaluation at h
  split at h
  · exact absurd h List.not_mem_nil
  · cases hevaluated : evaluation.evaluated a inputs with
    | none =>
      rw [hevaluated] at h
      exact absurd h List.not_mem_nil
    | some events =>
      rw [hevaluated] at h
      simp only [evaluation.evaluated, Option.bind_eq_bind, Option.bind_eq_some_iff, Option.pure_def,
        Option.some.injEq] at hevaluated
      obtain ⟨raws, -, set, -, objects, hobjects, rfl⟩ := hevaluated
      obtain ⟨argument, hargument, hevent⟩ := List.mem_flatMap.mp h
      rw [FilterSet.events_verdictsTraced] at hevent
      obtain ⟨filter, -, rfl⟩ := List.mem_map.mp hevent
      refine ⟨?_, _, _, _, _, rfl⟩
      intro hnone
      rw [hnone] at hobjects
      obtain rfl : [] = objects := Option.some.inj hobjects
      exact absurd hargument List.not_mem_nil

/-- The events that evaluating rules tells of in a run. -/
def evaluationOf (args : List Bytes) (inputs : Inputs) : List Event :=
  match Arguments.ofArgs args with
  | .ok a => a.evaluation inputs
  | .error _ => []

/-- The notes are all that is told of a run whose output never fails, in the order in which it is
    told.  Objects may be evaluated in any order, and even at the same time. -/
def Emits (args : List Bytes) (inputs : Inputs) (notes : List Note) : Prop :=
  ∃ evaluated : List Event, evaluated.Perm (evaluationOf args inputs) ∧
    notes = (run (.ofString programName :: args) inputs {}).notes ++ evaluated.map .event

/-! ### What the program does -/

variable {args args' : List Bytes} {a a' : Arguments} {setting : Option String}

/-- Where the arguments are accepted, the user is shown what is told of the run. -/
theorem shows_stderr (haccepted : Arguments.ofArgs args = .ok a) (inputs : Inputs)
    (hlog : a.objects = [] ∨ ¬ (Log.choose setting a.verbosity).Traces) {notes : List Note}
    (hnotes : Emits args inputs notes) :
    Shows (.choose setting a.verbosity) notes (program args setting inputs).stderr := by
  obtain ⟨evaluated, hperm, rfl⟩ := hnotes
  rw [evaluationOf, haccepted] at hperm
  -- An order of evaluation is as good as any other, since none of the events is shown.
  have hhidden : ∀ event ∈ evaluated,
      (Log.choose setting a.verbosity).enables event = false := by
    intro event hevent
    obtain ⟨hobjects, object, rule, found, applies, rfl⟩ :=
      Arguments.mem_evaluation (hperm.mem_iff.mp hevent)
    rw [← Bool.not_eq_true, Log.enables_ruleEvaluated_iff]
    exact hlog.resolve_left hobjects
  refine Shows.append_events ?_ hhidden
  rw [program, logOf, haccepted]
  exact shows_render _ _

/-- Arguments that ask for the same but for the verbosity lead to the same run. -/
theorem run_eq_of_verbosity (haccepted : Arguments.ofArgs args = .ok a)
    (haccepted' : Arguments.ofArgs args' = .ok a')
    (hsame : a' = { a with verbosity := a'.verbosity }) (program : Bytes) (inputs : Inputs)
    (output : Sink) :
    run (program :: args') inputs output = run (program :: args) inputs output := by
  unfold run
  simp only [List.tail_cons, haccepted, haccepted']
  rw [hsame]
  rfl

theorem evaluationOf_eq_of_verbosity (haccepted : Arguments.ofArgs args = .ok a)
    (haccepted' : Arguments.ofArgs args' = .ok a')
    (hsame : a' = { a with verbosity := a'.verbosity }) (inputs : Inputs) :
    evaluationOf args' inputs = evaluationOf args inputs := by
  rw [evaluationOf, evaluationOf, haccepted, haccepted']
  show a'.evaluation inputs = a.evaluation inputs
  rw [hsame]
  rfl

/-- Where the arguments are wrong, the program tells why, and nothing is logged. -/
theorem program_of_rejected {e : UsageError} (hrejected : Arguments.ofArgs args = .error e)
    (setting : Option String) (inputs : Inputs) :
    program args setting inputs =
      { code := 1, stdout := [], stderr := e.message programName } := by
  have hname : programOfPath (.ofString programName) = programName := by decide
  have hrun : run (.ofString programName :: args) inputs {} =
      { status := Outcome.failure
        output := {}
        notes := [.diagnostic (e.message programName)] } := by
    unfold run
    simp only [List.tail_cons, hrejected, List.head?_cons, Option.elim_some, hname]
    rfl
  rw [program, hrun]
  simp [Note.render, Outcome.failure, exitCode, maxExitCode]

/-! ### Logging -/

/-- **Logging** observes, and makes no difference.  Two invocations whose arguments are accepted, and
    ask for the same but for the verbosity, end with the same code and write the same output, and
    the same is told of them; of that, each of them shows its user all diagnostics, and the events
    that its own log enables.  Left out are objects together with logs at the level of traces.

    Where arguments are wrong, nothing is logged whatever the setting, and the user is told why.
    Flags for the log in front of arguments make no difference to whether they are wrong, and why;
    only the usage line may show them. -/
theorem program_log_independent (inputs : Inputs) :
    (∀ args args' a a' setting setting',
      Arguments.ofArgs args = .ok a → Arguments.ofArgs args' = .ok a' →
      a' = { a with verbosity := a'.verbosity } →
      let log := Log.choose setting a.verbosity
      let log' := Log.choose setting' a'.verbosity
      a.objects = [] ∨ ¬ log.Traces ∧ ¬ log'.Traces →
      let exit := program args setting inputs
      let exit' := program args' setting' inputs
      exit'.code = exit.code ∧ exit'.stdout = exit.stdout ∧
      (∀ notes, Emits args' inputs notes ↔ Emits args inputs notes) ∧
      ∀ notes, Emits args inputs notes →
        Shows log notes exit.stderr ∧ Shows log' notes exit'.stderr) ∧
    (∀ args e setting, Arguments.ofArgs args = .error e →
      program args setting inputs =
        { code := 1, stdout := [], stderr := e.message programName }) ∧
    (∀ args count,
      let louder := List.replicate count (.ofString "-v") ++ args
      (∀ a, Arguments.ofArgs args = .ok a →
        Arguments.ofArgs louder = .ok { a with verbosity := min 255 (a.verbosity + count) }) ∧
      (∀ e, Arguments.ofArgs args = .error e →
        ∃ e', Arguments.ofArgs louder = .error e' ∧ e'.reason = e.reason)) := by
  refine ⟨?_, fun args e setting h => program_of_rejected h setting inputs,
    fun args count => Arguments.ofArgs_verbose_append count args⟩
  intro args args' a a' setting setting' haccepted haccepted' hsame log log' hlog exit exit'
  have hrun : run (.ofString programName :: args') inputs {} =
      run (.ofString programName :: args) inputs {} :=
    run_eq_of_verbosity haccepted haccepted' hsame _ inputs {}
  have hemits (notes : List Note) : Emits args' inputs notes ↔ Emits args inputs notes := by
    rw [Emits, Emits, hrun, evaluationOf_eq_of_verbosity haccepted haccepted' hsame]
  have hobjects : a'.objects = a.objects := by rw [hsame]
  refine ⟨?_, ?_, hemits, fun notes hnotes => ⟨?_, ?_⟩⟩
  · exact congrArg (fun o : Outcome => exitCode o.status) hrun
  · exact congrArg (fun o : Outcome => o.output.written) hrun
  · exact shows_stderr haccepted inputs (hlog.imp_right And.left) hnotes
  · exact shows_stderr haccepted' inputs ((hlog.imp_left hobjects.trans).imp_right And.right)
      ((hemits notes).mpr hnotes)

/-- The usage line shows the flags for the log, though nothing is logged. -/
theorem program_usage_names_flags :
    let inputs : Inputs := { file := fun _ => .error .notFound, standardInput := .ok [] }
    let args := ["--json=x"].map Bytes.ofString
    let args' := ["-v", "--json=x"].map Bytes.ofString
    let refusal := "error: unexpected value 'x' for '--json' found; no more were expected\n\n"
    (run (.ofString programName :: args) inputs {}).notes =
        [.diagnostic (refusal ++ "Usage: schema-filter --json [OBJECT]...\n")] ∧
      (run (.ofString programName :: args') inputs {}).notes =
        [.diagnostic (refusal ++ "Usage: schema-filter --verbose... --json [OBJECT]...\n")] ∧
      (program args none inputs).stderr ≠ (program args' none inputs).stderr := by
  intro inputs args args' refusal
  refine ⟨by decide, by decide, by decide⟩

end Command

end SchemaFilter
