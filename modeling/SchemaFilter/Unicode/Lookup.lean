import SchemaFilter.Unicode.AgeTable
import SchemaFilter.Unicode.Break
import SchemaFilter.Unicode.CaseOrbit

/-!
# Looking up characters by the name of a property

Names are compared loosely: capitals, spaces, hyphens, underscores, a leading `is` and whatever is
not ASCII make no difference.

* `looseName` — what is left of a name;
* `PropertyQuery` — a name, or a name with a value;
* `Answer` — what a name is found to stand for;
* `PropertyQuery.members` — the characters asked for, or what was not found.
-/

namespace SchemaFilter

/-- A name without what makes no difference.  The name `isc` belongs to a property and keeps its
    beginning. -/
def looseName (name : String) : List Char :=
  let lowered := name.toList.map Char.toLower
  let (body, hadIs) :=
    match lowered with
    | 'i' :: 's' :: rest => (rest, true)
    | _ => (lowered, false)
  let kept := body.filter fun c => c ≠ ' ' && c ≠ '_' && c ≠ '-' && c.toNat < 128
  if hadIs && kept == ['c'] then ['i', 's', 'c'] else kept

/-- Is a loose name one of some names? -/
def isNamed (loose : List Char) (names : List String) : Bool :=
  names.any fun name => looseName name == loose

/-- How a set of characters is asked for. -/
inductive PropertyQuery where
  | named (name : String)
  | valued (name value : String)
  deriving DecidableEq, Repr

/-- What a query can fail to find. -/
inductive PropertyNotFound where
  | property
  | value
  deriving DecidableEq, Repr

/-- What looking up a name finds: characters, or, where the name is known and stands for none, that
    there are none. -/
abbrev Answer := Option (Except PropertyNotFound CharSet)

namespace PropertyQuery

/-- The general category with a loose name, and three sets that are asked for as if they were
    categories.  The category of surrogates is known and has no characters. -/
def category? (loose : List Char) : Answer :=
  if loose == "any".toList then some (.ok .all)
  else if loose == "assigned".toList then some (.ok Category.unassigned.complement)
  else if loose == "ascii".toList then some (.ok (.range 0 0x7F))
  else if isNamed loose ["Surrogate", "Cs"] then some (.error .value)
  else (Category.table.find? (isNamed loose ·.names)).map (.ok ·.members)

/-- The scripts that have names and no characters of their own. -/
def emptyScripts : List String := ["Katakana_Or_Hiragana", "Hrkt", "Unknown", "Zzzz"]

/-- The script with a loose name. -/
def script? (loose : List Char) : Answer :=
  if isNamed loose emptyScripts then some (.error .value)
  else (Script.table.find? (isNamed loose ·.names)).map (.ok ·.members)

/-- The characters used with the script that has a loose name. -/
def scriptExtension? (loose : List Char) : Answer :=
  if isNamed loose emptyScripts then some (.error .value)
  else
    (Script.table.find? (isNamed loose ·.names)).map fun script =>
      match ScriptExtension.table.find? (script.names.contains ·.script) with
      | none => .ok script.members
      | some change => .ok ((script.members.diff change.removed).union change.added)

/-- The versions up to the one with a loose name, the oldest first. -/
def agesUpTo? (loose : List Char) : List Age → Option (List Age)
  | [] => none
  | age :: ages =>
    if isNamed loose age.names then some [age]
    else (agesUpTo? loose ages).map (age :: ·)

/-- The characters of the version with a loose name, which has those of the versions before it. -/
def age? (loose : List Char) : Answer :=
  (agesUpTo? loose Age.table).map fun ages => .ok (.unions (ages.map (·.added)))

/-- The characters of the class with a loose name. -/
def break? (classes : List BreakClass) (loose : List Char) : Answer :=
  (classes.find? (isNamed loose ·.names)).map (.ok ·.members)

/-- The properties that are asked for with a value: the names of each, and how the value is looked
    up. -/
def valuedProperties : List (List String × (List Char → Answer)) := [
  (Property.categoryNames, category?),
  (Property.scriptNames, script?),
  (Property.scriptExtensionNames, scriptExtension?),
  (Property.ageNames, age?),
  (Property.graphemeBreakNames, break? GraphemeBreak.table),
  (Property.wordBreakNames, break? WordBreak.table),
  (Property.sentenceBreakNames, break? SentenceBreak.table)]

/-- The names of the properties that are not asked for by name alone. -/
def valuedNames : List String :=
  valuedProperties.flatMap (·.1) ++ Property.otherNames

/-- The names that a category keeps although a property has them too. -/
def categoryFirst : List String := ["cf", "sc", "lc"]

/-- The characters asked for. -/
def members : PropertyQuery → Except PropertyNotFound CharSet
  | named name =>
    let loose := looseName name
    let property := Property.table.find? (isNamed loose ·.names)
    match property with
    | some entry => .ok entry.members
    | none =>
      if isNamed loose valuedNames && !isNamed loose categoryFirst then
        .error .property
      else
        ((category? loose).or (script? loose)).getD (.error .property)
  | valued name value =>
    let loose := looseName name
    match valuedProperties.find? (isNamed loose ·.1) with
    | some (_, value?) => (value? (looseName value)).getD (.error .value)
    | none =>
      if isNamed loose Property.otherNames || Property.table.any (isNamed loose ·.names) then
        .error .value
      else .error .property

end PropertyQuery

end SchemaFilter
