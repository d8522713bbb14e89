import SchemaFilter.Command.Log
import SchemaFilter.Command.Run

/-!
# The program

The program is the command with a log, which goes where diagnostics go.

* `exitCode` — the code that a status ends the program with;
* `Exit`, `Command.program` — all that a run of the program leads to.
-/

namespace SchemaFilter.Command

/-- The greatest code that a program can end with. -/
def maxExitCode : Nat := 255

/-- The code that a status ends the program with: the nearest that there is. -/
def exitCode (status : Int) : Nat :=
  min maxExitCode status.toNat

/-- How a note is written, if it is. -/
def Note.render (log : Log) : Note → String
  | .diagnostic text => text
  | .event told => if log.enables told then told.logLine else ""

/-- What a run of the program leads to. -/
structure Exit where
  code : Nat
  stdout : Bytes
  stderr : String
  deriving Repr

/-- The log that the program keeps. -/
def logOf (args : List Bytes) (setting : Option String) : Log :=
  match Arguments.ofArgs args with
  | .ok a => .choose setting a.verbosity
  | .error _ => .silent

/-- Runs the program with some arguments, and perhaps a setting for the log. -/
def program (args : List Bytes) (setting : Option String) (inputs : Inputs) : Exit :=
  let outcome := run (.ofString programName :: args) inputs {}
  { code := exitCode outcome.status
    stdout := outcome.output.written
    stderr := String.join (outcome.notes.map (·.render (logOf args setting))) }

end SchemaFilter.Command
