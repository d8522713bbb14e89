import SchemaFilter.Command.Program

/-!
# The entry point

The files that the arguments name, and standard input, are read; all else is decided by
`Command.program`.
-/

namespace SchemaFilter.Main

/-- The environment variable with the setting for the log. -/
def logVariable : String := "SCHEMA_FILTER_LOG"

/-- An error in the system's own words. -/
def systemError : IO.Error → SystemError
  | .noFileOrDirectory .. => .notFound
  | .permissionDenied _ number text | .inappropriateType _ number text
  | .invalidArgument _ number text | .resourceExhausted _ number text
  | .noSuchThing _ number text | .alreadyExists _ number text
  | .interrupted _ number text
  | .otherError number text | .resourceBusy number text | .resourceVanished number text
  | .unsupportedOperation number text | .hardwareFault number text
  | .unsatisfiedConstraints number text | .illegalOperation number text
  | .protocolError number text | .timeExpired number text => .other text number.toNat
  | .unexpectedEof => .other "unexpected end of file" 0
  | .userError text => .other text 0

/-- What reading gives. -/
def reading (read : IO ByteArray) : IO (Except SystemError Bytes) := do
  try
    return .ok (← read).toList
  catch e =>
    return .error (systemError e)

/-- The number of bytes to ask for at once. -/
def chunkSize : USize := 65536

/-- What a stream still holds, behind what has been read. -/
partial def readBehind (stream : IO.FS.Stream) (before : ByteArray) : IO ByteArray := do
  let chunk ← stream.read chunkSize
  if chunk.isEmpty then return before else readBehind stream (before ++ chunk)

/-- The bytes of a source. -/
def readSource : Source → IO (Except SystemError Bytes)
  | .file path => reading (IO.FS.readBinFile path.toText)
  | .standardInput => do
    let stream ← IO.getStdin
    reading (readBehind stream .empty)

/-- What can be read, with the bytes of one source. -/
def withSource (inputs : Inputs) (source : Source) (result : Except SystemError Bytes) : Inputs :=
  match source with
  | .file path => { inputs with file := fun p => if p = path then result else inputs.file p }
  | .standardInput => { inputs with standardInput := result }

/-- Reads sources one after another, as far as the first that cannot be read. -/
def readSources (sources : List Source) : IO Inputs := do
  let mut inputs : Inputs := { file := fun _ => .error .notFound, standardInput := .ok [] }
  for source in sources do
    let result ← readSource source
    inputs := withSource inputs source result
    if let .error _ := result then return inputs
  return inputs

/-- The sources that the arguments name, if any are needed.  Each needs to be read only once. -/
def sourcesOf (args : List Bytes) : List Source :=
  match Command.Arguments.ofArgs args with
  | .ok a => if a.help || a.version then [] else (a.ruleFiles.map Source.ofArg).eraseDups
  | .error _ => []

/-- Runs the program, and ends it with its code. -/
def run (args : List String) : IO UInt32 := do
  let args := args.map Bytes.ofString
  let setting ← IO.getEnv logVariable
  let inputs ← readSources (sourcesOf args)
  let exit := Command.program args setting inputs
  (← IO.getStderr).putStr exit.stderr
  let stdout ← IO.getStdout
  try
    stdout.write (.mk exit.stdout.toArray)
    stdout.flush
    return exit.code.toUInt32
  catch e =>
    (← IO.getStderr).putStr (Command.Work.errorLine (Command.writeFailure (systemError e).message))
    return (Command.exitCode Command.Outcome.failure).toUInt32

end SchemaFilter.Main

/-- Runs the program. -/
def main (args : List String) : IO UInt32 :=
  SchemaFilter.Main.run args
