import SchemaFilter.Text.Similarity

/-!
# The options of the command

* `Command.Opt` — the options;
* `Command.Opt.ofLong?`, `Command.Opt.ofShort?` — options by their names;
* `Command.Opt.shown` — how an option is named in messages;
* `Command.Opt.similar?` — the option that a mistyped name is meant to be.
-/

namespace SchemaFilter.Command

/-- The options of the command. -/
inductive Opt where
  | help
  | version
  | filter
  | filterFile
  | json
  | verbose
  deriving DecidableEq, Repr

namespace Opt

/-- Every option. -/
def all : List Opt := [help, version, filter, filterFile, json, verbose]

/-- The name behind two hyphens. -/
def long : Opt → String
  | help => "help"
  | version => "version"
  | filter => "filter"
  | filterFile => "filter-file"
  | json => "json"
  | verbose => "verbose"

/-- The letter behind one hyphen. -/
def short? : Opt → Option Char
  | help => some 'h'
  | version => some 'V'
  | filter => some 'f'
  | verbose => some 'v'
  | filterFile | json => none

/-- The word for the value of an option that takes one. -/
def valueName? : Opt → Option String
  | filter => some "RULE"
  | filterFile => some "FILE"
  | help | version | json | verbose => none

/-- Does the option take a value? -/
def takesValue (opt : Opt) : Bool :=
  opt.valueName?.isSome

/-- How the option is named in messages. -/
def shown (opt : Opt) : String :=
  "--" ++ opt.long ++
    match opt with
    | verbose => "..."
    | _ => opt.valueName?.elim "" fun name => " <" ++ name ++ ">"

/-- The option with a name behind two hyphens. -/
def ofLong? (name : String) : Option Opt :=
  all.find? (·.long = name)

/-- The option with a letter behind one hyphen. -/
def ofShort? (letter : Char) : Option Opt :=
  all.find? (·.short? = some letter)

/-- The similarity that a mistyped name must exceed. -/
def leastSimilarity : Float := 0.7

/-- The option whose name is the most similar to a mistyped one, and similar enough; of equally
    similar ones the last. -/
def similar? (name : String) : Option Opt :=
  let better (best : Option (Opt × Float)) (opt : Opt) : Option (Opt × Float) :=
    let s := similarity name.toList opt.long.toList
    let beaten := best.all fun (_, other) => other ≤ s
    if leastSimilarity < s && beaten then some (opt, s) else best
  (all.foldl better none).map (·.1)

end Opt

end SchemaFilter.Command
