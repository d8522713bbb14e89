import SchemaFilter.Command.Directive

/-!
# The log

Which events are logged is said by directives.

* `Log` — directives together;
* `Log.ofText` — reads directives;
* `Log.enables` — is an event logged?
* `Event.logLine` — the line that is logged.
-/

namespace SchemaFilter

/-- Directives.  Of those that rank alike, the last counts. -/
structure Log where
  directives : List Directive
  deriving DecidableEq, Repr

namespace Log

/-- The log of nothing. -/
def silent : Log := ⟨[]⟩

/-- The log of all events that matter as much as a level. -/
def fromLevel (level : Level) : Log := ⟨[{ least := some level }]⟩

/-- The character between directives. -/
def separator : Char := ','

/-- Reads directives.  Without any, errors are logged; and warnings too if one cannot be read. -/
def ofText (text : List Char) : Log :=
  match ((piecesAt separator text).filter (· ≠ [])).mapM Directive.parse? with
  | none => fromLevel .warn
  | some [] => fromLevel .error
  | some directives => ⟨directives⟩

/-- The log that a verbosity asks for. -/
def ofVerbosity : Nat → Log
  | 0 => silent
  | 1 => fromLevel .info
  | 2 => fromLevel .debug
  | _ => fromLevel .trace

/-- The log that a setting asks for, unless it is blank, or else a verbosity. -/
def choose (setting : Option String) (verbosity : Nat) : Log :=
  let text := trim (setting.elim [] String.toList)
  if text = [] then ofVerbosity verbosity else ofText text

/-- The directive that counts for an event: of those that cover it, the one that outranks the
    others. -/
def directiveFor? (log : Log) (event : Event) : Option Directive :=
  (log.directives.filter (·.covers event)).foldl (fun best directive =>
    if best.all directive.outranks then some directive else best) none

/-- Is an event logged? -/
def enables (log : Log) (event : Event) : Bool :=
  ((log.directiveFor? event).bind (·.least)).any (·.rank ≤ event.level.rank)

end Log

/-- The line that an event is logged as. -/
def Event.logLine (event : Event) : String :=
  event.level.keyword ++ " " ++ event.target ++ ": " ++ event.message ++
    String.join (event.fields.map fun field => " " ++ field.name ++ "=" ++ field.value.render) ++
    "\n"

end SchemaFilter
