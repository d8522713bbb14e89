import SchemaFilter.Filter.Event
import SchemaFilter.Text.Utf8

/-!
# Reporting rejected rules

* `Sink` — where bytes are written, with room for some or for any number of them;
* `Sink.write`, `Sink.writeEach` — write bytes, and pieces one after another, as far as they fit;
* `Reporter` — what is done with a message;
* `Reporter.report` — reports a message;
* `Rule.parseReported` — reads a rule and reports it if it is rejected.
-/

namespace SchemaFilter

/-! ### Sinks -/

/-- A place to write to.  `room` is the number of bytes that it still takes, if it is limited;
    `flushFails` tells that it does not confirm what it has taken. -/
structure Sink where
  room : Option Nat := none
  flushFails : Bool := false
  written : Bytes := []
  deriving DecidableEq, Repr

namespace Sink

/-- The wording for a sink that takes no more. -/
def closedText : String := "closed"

/-- The wording for a sink that does not confirm what it has taken. -/
def flushFailedText : String := "flush failed"

/-- Writes as many bytes as there is room for, and tells whether that was all of them. -/
def write (sink : Sink) (bytes : Bytes) : Sink × Bool :=
  match sink.room with
  | none => ({ sink with written := sink.written ++ bytes }, true)
  | some room =>
    let taken := bytes.take room
    ({ sink with room := some (room - taken.length), written := sink.written ++ taken },
      bytes.length ≤ room)

/-- Writes pieces up to the first that does not fit, and tells whether all of them did. -/
def writeEach (sink : Sink) : List Bytes → Sink × Bool
  | [] => (sink, true)
  | piece :: pieces =>
    let (sink, complete) := sink.write piece
    if complete then sink.writeEach pieces else (sink, false)

/-- Writes all there is to write.  What can go wrong is that it does not fit, or that it is not
    confirmed. -/
def deliver (sink : Sink) (bytes : Bytes) : Sink × Option String :=
  let (sink, complete) := sink.write bytes
  (sink,
    if !complete then some closedText
    else if sink.flushFails then some flushFailedText
    else none)

end Sink

/-! ### Reporters -/

/-- What is done with messages: they are collected; dropped; told to an observer; or written line
    by line, where a failure to write is remembered. -/
inductive Reporter where
  | collect (messages : List String)
  | drop
  | observe
  | write (sink : Sink) (mark : String) (lastError : Option String)
  deriving DecidableEq, Repr

namespace Reporter

/-- What stands before each message, unless something else is chosen. -/
def standardMark : String := "error: "

/-- The line that a message is written as. -/
def line (mark message : String) : Bytes :=
  .ofString (mark ++ message ++ "\n")

/-- The pieces that a line is written in. -/
def linePieces (mark message : String) : List Bytes :=
  [mark, message, "\n"].map .ofString

/-- Reports a message. -/
def report (reporter : Reporter) (message : String) : Traced Event Reporter := do
  match reporter with
  | collect messages => return collect (messages ++ [message])
  | drop => return drop
  | observe => do
    Traced.emit (Event.warned message)
    return observe
  | write sink mark lastError =>
    let (sink, complete) := sink.writeEach (linePieces mark message)
    return write sink mark (if complete then lastError else some Sink.closedText)

end Reporter

/-- Reads a rule, and reports it if it is rejected. -/
def Rule.parseReported (raw : String) (reporter : Reporter) :
    Traced Event (Except ParseError Rule × Reporter) := do
  match ← Rule.parseTraced raw with
  | .ok rule => return (.ok rule, reporter)
  | .error e => return (.error e, ← reporter.report e.message)

end SchemaFilter
