import SchemaFilter.Command.Arguments
import SchemaFilter.Command.Listing
import SchemaFilter.Command.Source
import SchemaFilter.Filter.Report

/-!
# Running the command

The command loads rules, reads them, looks at their patterns, reads objects, and lists the rules or
what they say of the objects.  The first of these steps that fails ends it.

* `Note` — what the command tells while it works: events, and diagnostics for its user;
* `Work` — work that is told of, and may be given up;
* `Arguments.answer` — the text that arguments ask for;
* `Outcome`, `Command.run` — all that a run of the command leads to.
-/

namespace SchemaFilter.Command

/-! ### Telling, and giving up -/

/-- What the command tells while it works. -/
inductive Note where
  | event (event : Event)
  | diagnostic (text : String)
  deriving DecidableEq, Repr

/-- Work that is told of, and may be given up. -/
abbrev Work := OptionT (Traced Note)

namespace Work

variable {α : Type}

/-- Tells one thing. -/
def tell (note : Note) : Work Unit :=
  OptionT.lift (Traced.emit note)

/-- Work that events are told of. -/
def watch (t : Traced Event α) : Work α :=
  OptionT.lift (t.retell .event)

/-- Tells a diagnostic, and gives up. -/
def giveUp (text : String) : Work α := do
  tell (.diagnostic text)
  failure

/-- The diagnostic for an error. -/
def errorLine (message : String) : String :=
  Reporter.standardMark ++ message ++ "\n"

/-- What was got, or else an error to give up with. -/
def orGiveUp {ε : Type} (message : ε → String) : Except ε α → Work α
  | .ok a => return a
  | .error e => giveUp (errorLine (message e))

end Work

/-! ### Help and version -/

/-- The number of the version. -/
def versionNumber : String := "0.1.0"

/-- The name and the version. -/
def versionText : String :=
  programName ++ " " ++ versionNumber ++ "\n"

/-- How the command is used. -/
def helpText : String :=
  versionText ++ "
Usage: schema-filter [-h] [-V] [-v] [--json] [-f RULE]... [--filter-file FILE]... [OBJECT...]

Parses schema filter rules such as 'IgnoreType(Table, dbo)' or
'KeepName!([a-zA-Z]99.*)'. Without objects the parsed rules are printed
in canonical form. Each OBJECT is written TYPE:PART[.PART...] and is
reported against every rule as LABEL, RULE INDEX, RULE and APPLIES.

Options:
  -h, --help              Show this help message and exit.
  -V, --version           Output version information and exit.
  -f, --filter=RULE       Add RULE; may be repeated.
      --filter-file=FILE  Read rules from FILE, one per line ('-' for stdin).
      --json              Emit JSON instead of text.
  -v, --verbose           Increase diagnostic logging; may be repeated.

Set SCHEMA_FILTER_LOG to a tracing filter directive to control logging.
"

/-! ### The steps -/

/-- The texts of all rules: those in the arguments, and behind them those in the files. -/
def Arguments.loadRules (a : Arguments) (inputs : Inputs) : Work (List String) := do
  let loaded ← Work.watch <|
    Source.loadAll inputs (a.rules.map Bytes.toText) (a.ruleFiles.map Source.ofArg)
  match loaded.failure with
  | none => return loaded.rules
  | some e => Work.giveUp (Work.errorLine e.message)

/-- Reads rules.  All of them are read, even if some are rejected. -/
def readRules : List String → Work (List Rule)
  | [] => return []
  | raw :: raws => OptionT.mk do
    let result ← (Rule.parseTraced raw).retell .event
    match result with
    | .ok rule => return (← readRules raws).map (rule :: ·)
    | .error e => do
      Traced.emit (.diagnostic (Work.errorLine e.message))
      let _ ← readRules raws
      return none

/-- The set of the rules that some texts spell. -/
def buildSet (raws : List String) : Work FilterSet := do
  let rules ← readRules raws
  Work.orGiveUp SetError.message (FilterSet.ofRules rules)

/-- The objects that some arguments spell. -/
def readObjects (args : List Bytes) : Work (List ObjectArgument) :=
  Work.orGiveUp ObjectArgumentError.message (args.mapM fun arg => ObjectArgument.parse arg.toText)

/-- The listing that arguments ask for. -/
def Arguments.listing (a : Arguments) (inputs : Inputs) : Work String := do
  let raws ← a.loadRules inputs
  let set ← buildSet raws
  let objects ← readObjects a.objects
  Work.tell (.event (.evaluating set.size objects.length a.json))
  return Listing.text a.json set objects

/-- The text that arguments ask for. -/
def Arguments.answer (a : Arguments) (inputs : Inputs) : Work String :=
  if a.help then return helpText
  else if a.version then return versionText
  else a.listing inputs

/-! ### A run -/

/-- What a run of the command leads to: a status, what has become of the output, and what was told
    on the way. -/
structure Outcome where
  status : Int
  output : Sink
  notes : List Note
  deriving Repr

namespace Outcome

/-- The status of a run that succeeds. -/
def success : Int := 0

/-- The status of a run that fails. -/
def failure : Int := 1

/-- The events of a run. -/
def events (o : Outcome) : List Event :=
  o.notes.filterMap fun
    | .event event => some event
    | .diagnostic _ => none

/-- The diagnostics of a run, one after another. -/
def diagnostics (o : Outcome) : String :=
  String.join <| o.notes.filterMap fun
    | .event _ => none
    | .diagnostic text => some text

end Outcome

/-- The error where output cannot be written. -/
def writeFailure (reason : String) : String :=
  "failed to write output: " ++ reason

/-- Writes a text, if there is one. -/
def deliver (output : Sink) (answer : Traced Note (Option String)) : Outcome :=
  match answer.value with
  | none => { status := Outcome.failure, output, notes := answer.events }
  | some text =>
    match output.deliver (.ofString text) with
    | (output, none) => { status := Outcome.success, output, notes := answer.events }
    | (output, some reason) =>
      { status := Outcome.failure
        output
        notes := answer.events ++ [.diagnostic (Work.errorLine (writeFailure reason))] }

/-- Runs the command.  The first of the arguments is the path of the program. -/
def run (args : List Bytes) (inputs : Inputs) (output : Sink) : Outcome :=
  let program := args.head?.elim programName programOfPath
  let answer : Work String :=
    match Arguments.ofArgs args.tail with
    | .ok a => a.answer inputs
    | .error e => Work.giveUp (e.message program)
  deliver output answer.run

end SchemaFilter.Command
