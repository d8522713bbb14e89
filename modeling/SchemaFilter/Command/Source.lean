import SchemaFilter.Command.Inputs
import SchemaFilter.Command.RulesFile
import SchemaFilter.Filter.Event
import SchemaFilter.Text.Quoted

/-!
# Sources of rules

A source is a file, or standard input, which is empty once it has been read.

* `Source` — the sources, as they are named by arguments;
* `SourceError` — a source that cannot be read;
* `Source.loadAll` — the rules of sources, one after another, up to the first that cannot be read.
-/

namespace SchemaFilter

/-- Where rules are read from. -/
inductive Source where
  | file (path : Bytes)
  | standardInput
  deriving DecidableEq, Repr

/-- A source that cannot be read, and why. -/
structure SourceError where
  source : Source
  cause : SystemError
  deriving DecidableEq, Repr

/-- The wording of an error. -/
def SourceError.message (e : SourceError) : String :=
  match e.source with
  | .file path =>
    "failed to read filter file '" ++ path.toText ++ "': " ++ e.cause.message
  | .standardInput =>
    "failed to read filter rules from standard input: " ++ e.cause.message

namespace Source

/-- The argument that stands for standard input. -/
def standardInputMark : Bytes := .ofString "-"

/-- The source that an argument names. -/
def ofArg (arg : Bytes) : Source :=
  if arg = standardInputMark then standardInput else file arg

/-- How events name a source. -/
def shown : Source → String
  | file path => "File(" ++ quotedBytes path ++ ")"
  | standardInput => "StandardInput"

/-- The bytes of a source. -/
def read (inputs : Inputs) : Source → Except SystemError Bytes
  | file path => inputs.file path
  | standardInput => inputs.standardInput

/-- What can be read after a source has been. -/
def after (inputs : Inputs) : Source → Inputs
  | file _ => inputs
  | standardInput => { inputs with standardInput := .ok [] }

end Source

/-- What has been loaded: rules, and the source that nothing was loaded from or behind. -/
structure Loaded where
  rules : List String
  failure : Option SourceError := none
  deriving DecidableEq, Repr

/-- Loads sources one after another, and puts their rules behind those that there are. -/
def Source.loadAll (inputs : Inputs) (rules : List String) :
    List Source → Traced Event Loaded
  | [] => pure { rules }
  | source :: sources =>
    match source.read inputs with
    | .error cause => pure { rules, failure := some ⟨source, cause⟩ }
    | .ok bytes => do
      let more := RulesFile.rules bytes
      Traced.emit (.rulesLoaded source.shown more.length)
      loadAll (source.after inputs) (rules ++ more) sources

end SchemaFilter
