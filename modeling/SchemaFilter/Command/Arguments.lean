import SchemaFilter.Command.Opt
import SchemaFilter.Text.Plain
import SchemaFilter.Text.Split
import SchemaFilter.Text.Utf8

/-!
# The arguments of the command

Options and objects may be mixed.  A long option is written `--name` or `--name=value`, short ones
`-x`, several together `-xy`, and with a value `-xvalue` or `-x=value`; a value may also be the next
argument, unless it looks like an option.  Behind `--` there are objects only.

* `Command.Arguments` — what the arguments ask for;
* `Command.UsageError` — what is wrong with them;
* `Command.Arguments.ofArgs` — reads them.
-/

namespace SchemaFilter.Command

/-- What the arguments ask for. -/
structure Arguments where
  help : Bool := false
  version : Bool := false
  json : Bool := false
  verbosity : Nat := 0
  rules : List Bytes := []
  ruleFiles : List Bytes := []
  objects : List Bytes := []
  deriving DecidableEq, Repr

/-- What an argument can be. -/
inductive Item where
  | option (opt : Opt)
  | object
  deriving DecidableEq, Repr

/-- What is wrong with the arguments.  `used` are the options and objects that the usage line
    shows. -/
inductive UsageError where
  | unknown (arg : String) (similar : Option Opt) (used : List Item)
  | unwantedValue (value : String) (opt : Opt) (used : List Item)
  | repeated (opt : Opt)
  | missingValue (opt : Opt)
  deriving DecidableEq, Repr

namespace Arguments

/-- The greatest verbosity. -/
def maxVerbosity : Nat := 255

/-- Has an option that takes no value been given? -/
def given (a : Arguments) : Opt → Bool
  | .help => a.help
  | .version => a.version
  | .json => a.json
  | .verbose => a.verbosity ≠ 0
  | .filter | .filterFile => false

/-- The arguments with an option that takes no value. -/
def withFlag (a : Arguments) : Opt → Arguments
  | .help => { a with help := true }
  | .version => { a with version := true }
  | .json => { a with json := true }
  | .verbose => { a with verbosity := min maxVerbosity (a.verbosity + 1) }
  | .filter | .filterFile => a

/-- The arguments with the value of an option more. -/
def withValue (a : Arguments) (opt : Opt) (value : Bytes) : Arguments :=
  match opt with
  | .filter => { a with rules := a.rules ++ [value] }
  | .filterFile => { a with ruleFiles := a.ruleFiles ++ [value] }
  | .help | .version | .json | .verbose => a

/-- The arguments with one object more. -/
def withObject (a : Arguments) (object : Bytes) : Arguments :=
  { a with objects := a.objects ++ [object] }

end Arguments

/-! ### Reading -/

/-- What is still open: an option whose value is to come, or an item that is not listed among the
    used ones before something else comes. -/
inductive Pending where
  | nothing
  | valueOf (opt : Opt)
  | unlisted (item : Item)
  deriving DecidableEq, Repr

/-- What has been read of the arguments.  Only objects come where `objectsOnly`. -/
structure ArgumentReader where
  arguments : Arguments := {}
  used : List Item := []
  pending : Pending := .nothing
  objectsOnly : Bool := false
  deriving Repr

/-- Reading may find that the arguments are wrong. -/
abbrev ArgumentReading := Except UsageError ArgumentReader

namespace ArgumentReader

/-- Lists an item among the used ones, where it may be already. -/
def list (r : ArgumentReader) (item : Item) : ArgumentReader :=
  if r.used.contains item then r else { r with used := r.used ++ [item] }

/-- Lists an item among the used ones, as the last. -/
def listLast (r : ArgumentReader) (item : Item) : ArgumentReader :=
  { r with used := r.used.filter (· ≠ item) ++ [item] }

/-- Ends what is open, where a value that is still to come is missing. -/
def settle (r : ArgumentReader) : ArgumentReading :=
  match r.pending with
  | .nothing => .ok r
  | .valueOf opt => .error (.missingValue opt)
  | .unlisted item => .ok { r.list item with pending := .nothing }

/-- Ends what is open, where a value that is still to come does not matter any more. -/
def abandon (r : ArgumentReader) : ArgumentReader :=
  match r.pending with
  | .unlisted item => r.list item
  | .nothing | .valueOf _ => r

/-- Takes an option that takes no value. -/
def takeFlag (r : ArgumentReader) (opt : Opt) : ArgumentReading := do
  let r ← r.settle
  if opt = .verbose then
    return { r.listLast (.option opt) with arguments := r.arguments.withFlag opt }
  else if r.arguments.given opt then .error (.repeated opt)
  else return { r.list (.option opt) with arguments := r.arguments.withFlag opt }

/-- Takes an option with its value. -/
def takeOption (r : ArgumentReader) (opt : Opt) (value : Bytes) : ArgumentReading := do
  let r ← r.settle
  return { r.list (.option opt) with arguments := r.arguments.withValue opt value }

/-- Takes an option whose value is to come. -/
def awaitValue (r : ArgumentReader) (opt : Opt) : ArgumentReading := do
  let r ← r.settle
  return { r with pending := .valueOf opt }

/-- Takes an object. -/
def takeObject (r : ArgumentReader) (object : Bytes) : ArgumentReading := do
  let r ← if r.pending = .unlisted .object then .ok r else r.settle
  return { r with
    arguments := r.arguments.withObject object
    pending := .unlisted .object }

/-- Refuses a long option that is unknown. -/
def refuseLong (r : ArgumentReader) (name : String) : ArgumentReading :=
  let similar := Opt.similar? name
  let r := r.abandon
  let r := similar.elim r fun opt => r.list (.option opt)
  .error (.unknown ("--" ++ name) similar r.used)

/-- Takes a long option, by what stands behind its hyphens. -/
def takeLong (r : ArgumentReader) (text : Bytes) : ArgumentReading :=
  let name := text.takeWhile (· ≠ '='.toUInt8)
  let value := (text.drop name.length).tail?
  match decode? name with
  | none => r.refuseLong (Bytes.toText name)
  | some name =>
    match Opt.ofLong? (.ofList name) with
    | none => r.refuseLong (.ofList name)
    | some opt =>
      match opt.takesValue, value with
      | true, some value => r.takeOption opt value
      | true, none => r.awaitValue opt
      | false, none => r.takeFlag opt
      | false, some value =>
        .error (.unwantedValue (Bytes.toText value) opt (r.list (.option opt)).used)

/-- The first character of some bytes, and the bytes behind it, if they begin with a character. -/
def firstChar? (bytes : Bytes) : Option (Char × Bytes) :=
  [1, 2, 3, 4].findSome? fun count =>
    match decode? (bytes.take count) with
    | some [c] => some (c, bytes.drop count)
    | _ => none

/-- Refuses a short option that is unknown. -/
def refuseShort (arg : String) : ArgumentReading :=
  .error (.unknown ("-" ++ arg) none [])

/-- Takes short options, at most `limit` of them. -/
def takeShorts : (limit : Nat) → ArgumentReader → Bytes → ArgumentReading
  | 0, r, _ => .ok r
  | _, r, [] => .ok r
  | limit + 1, r, bytes =>
    match firstChar? bytes with
    | none => refuseShort (Bytes.toText bytes)
    | some (letter, rest) =>
      match Opt.ofShort? letter with
      | none => refuseShort (.singleton letter)
      | some opt =>
        if opt.takesValue then
          if rest = [] then r.awaitValue opt
          else r.takeOption opt (if rest.head? = some '='.toUInt8 then rest.tail else rest)
        else do
          let r ← r.takeFlag opt
          takeShorts limit r rest

/-- The byte of a hyphen. -/
def hyphen : UInt8 := '-'.toUInt8

/-- Takes an argument that is neither an option nor behind `--`. -/
def takePlain (r : ArgumentReader) (arg : Bytes) : ArgumentReading :=
  match r.pending with
  | .valueOf opt =>
    .ok { r with
      arguments := r.arguments.withValue opt arg
      pending := .unlisted (.option opt) }
  | .nothing | .unlisted _ => r.takeObject arg

/-- Takes an argument. -/
def take (r : ArgumentReader) (arg : Bytes) : ArgumentReading :=
  if r.objectsOnly then r.takeObject arg
  else
    match arg with
    | a :: b :: rest =>
      if a = hyphen && b = hyphen then
        if rest = [] then .ok { r with objectsOnly := true } else r.takeLong rest
      else if a = hyphen then takeShorts (rest.length + 1) r (b :: rest)
      else r.takePlain arg
    | arg => r.takePlain arg

end ArgumentReader

/-- Reads the arguments behind the name of the program. -/
def Arguments.ofArgs (args : List Bytes) : Except UsageError Arguments := do
  let r ← args.foldlM ArgumentReader.take {}
  return (← r.settle).arguments

/-! ### Messages -/

/-- How an item is named in the usage line. -/
def Item.shown : Item → String
  | option opt => opt.shown
  | object => "[OBJECT]..."

/-- The usage line.  It shows the options used, or else that there are options. -/
def usage (program : String) (used : List Item) : String :=
  let options := if used = [] then ["[OPTIONS]"] else (used.filter (· ≠ .object)).map Item.shown
  "Usage: " ++ " ".intercalate ([plain program] ++ options ++ [Item.object.shown]) ++ "\n"

/-- The message for a usage error.  It shows what the user has typed without control sequences. -/
def UsageError.message (program : String) : UsageError → String
  | unknown arg similar used =>
    let arg := plain arg
    let tip :=
      match similar with
      | some opt => "a similar argument exists: '--" ++ opt.long ++ "'"
      | none => "to pass '" ++ arg ++ "' as a value, use '-- " ++ arg ++ "'"
    "error: unexpected argument '" ++ arg ++ "' found\n\n  tip: " ++ tip ++ "\n\n" ++
      usage program used
  | unwantedValue value opt used =>
    "error: unexpected value '" ++ plain value ++ "' for '" ++ opt.shown ++
      "' found; no more were expected\n\n" ++ usage program used
  | repeated opt =>
    "error: the argument '" ++ opt.shown ++ "' cannot be used multiple times\n\n" ++
      usage program []
  | missingValue opt =>
    "error: a value is required for '" ++ opt.shown ++ "' but none was supplied\n"

/-- The name of the program where its path has none. -/
def programName : String := "schema-filter"

/-- The name of the program with a path: its last component, if it is a name and text. -/
def programOfPath (path : Bytes) : String :=
  let components := (piecesAt '/'.toUInt8 path).filter fun c => c ≠ [] && c ≠ encode ['.']
  match components.getLast? with
  | none => programName
  | some name =>
    if name = encode ['.', '.'] then programName
    else ((decode? name).map String.ofList).getD programName

end SchemaFilter.Command
