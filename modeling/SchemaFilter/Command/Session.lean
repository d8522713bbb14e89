import SchemaFilter.Command.Run
import SchemaFilter.Command.Writing

/-!
# Running the command on its two streams

A run writes on standard output and on standard error as it goes, each of which may take some bytes
only.  Whether standard error takes what it is given is never looked at.

* `Streams` — the two sinks;
* `Session`, `Attempt` — what is done with them, and may be given up;
* `Command.session` — a whole run.

It comes to what `Command.run` tells of (`session_eq_run`).
-/

namespace SchemaFilter.Command

/-- Where a run writes. -/
structure Streams where
  stdout : Sink := {}
  stderr : Sink := {}
  deriving DecidableEq, Repr

/-- What is done with the streams. -/
abbrev Session := StateM Streams

/-- What is done with the streams, and may be given up. -/
abbrev Attempt := OptionT Session

variable {α ε : Type} (cutting : Cutting)

/-! ### Telling, giving up, and writing -/

/-- Tells the user something, as far as it fits.  It is not looked at whether it does. -/
def complain (text : String) : Session Unit :=
  modify fun s => { s with stderr := (s.stderr.writeEach (cutting.piecesOf [text])).1 }

/-- Writes texts.  If that fails, the user is told of it. -/
def print (texts : List String) : Session Int := do
  let s ← get
  let (stdout, failure) := s.stdout.deliverTexts cutting texts
  set { s with stdout }
  match failure with
  | none => return Outcome.success
  | some reason =>
    complain cutting (Work.errorLine (writeFailure reason))
    return Outcome.failure

namespace Attempt

/-- Tells the user something, and gives up. -/
def giveUp (text : String) : Attempt α := do
  OptionT.lift (complain cutting text)
  failure

/-- What was got, or else an error to give up with. -/
def orGiveUp (message : ε → String) : Except ε α → Attempt α
  | .ok a => return a
  | .error e => giveUp cutting (Work.errorLine (message e))

/-! ### The steps -/

/-- Loads the texts of all rules. -/
def loadRules (a : Arguments) (inputs : Inputs) : Attempt (List String) :=
  let sources := a.ruleFiles.map Source.ofArg
  let loaded := (Source.loadAll inputs (a.rules.map Bytes.toText) sources).value
  match loaded.failure with
  | none => return loaded.rules
  | some e => giveUp cutting (Work.errorLine e.message)

/-- Reads rules, and tells of each that is rejected. -/
def readRules : List String → Attempt (List Rule)
  | [] => return []
  | raw :: raws => OptionT.mk do
    match Rule.parse raw with
    | .ok rule =>
      let rules ← (readRules raws).run
      return rules.map (rule :: ·)
    | .error e =>
      complain cutting (Work.errorLine e.message)
      let _ ← (readRules raws).run
      return none

/-- The set of the rules that some texts spell. -/
def buildSet (raws : List String) : Attempt FilterSet := do
  let rules ← readRules cutting raws
  orGiveUp cutting SetError.message (FilterSet.ofRules rules)

/-- The objects that some arguments spell. -/
def readObjects (args : List Bytes) : Attempt (List ObjectArgument) :=
  orGiveUp cutting ObjectArgumentError.message
    (args.mapM fun arg => ObjectArgument.parse arg.toText)

/-- Comes to the texts that arguments ask for. -/
def answer (a : Arguments) (inputs : Inputs) : Attempt (List String) :=
  if a.help then return [helpText]
  else if a.version then return [versionText]
  else do
    let raws ← loadRules cutting a inputs
    let set ← buildSet cutting raws
    let objects ← readObjects cutting a.objects
    return Listing.texts a.json set objects

/-- Comes to the texts that a run answers with.  The first of the arguments is the path of the
    program. -/
def answerTo (args : List Bytes) (inputs : Inputs) : Attempt (List String) :=
  match Arguments.ofArgs args.tail with
  | .ok a => answer cutting a inputs
  | .error e => giveUp cutting (e.message (args.head?.elim programName programOfPath))

end Attempt

/-! ### A run -/

/-- Runs the command. -/
def session (args : List Bytes) (inputs : Inputs) : Session Int := do
  match ← (Attempt.answerTo cutting args inputs).run with
  | none => return Outcome.failure
  | some texts => print cutting texts

/-- What a run leads to on streams that stand in some state: its status, and their states behind
    it. -/
def runOn (args : List Bytes) (inputs : Inputs) (streams : Streams) : Int × Streams :=
  (session cutting args inputs).run streams

end SchemaFilter.Command
