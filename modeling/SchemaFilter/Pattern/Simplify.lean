import SchemaFilter.Pattern.Expr

/-!
# Expressions in simplest form

Each way to build an expression leaves out what makes no difference to the texts that match.  The
size of a pattern is the size of its simplest form.

* `Pattern.Expr.ofSet` — one of some characters;
* `Pattern.Expr.all` — expressions one after another, with neighbouring texts joined;
* `Pattern.Expr.any` — expressions as alternatives: characters become one set, and what all
  alternatives begin with comes before the choice;
* `Pattern.Expr.repeat` — a repetition, unless it says no more than its body;
* `Pattern.Expr.remember` — a group.
-/

namespace SchemaFilter.Pattern

namespace Expr

/-- One of some characters.  A single one is a text. -/
def ofSet (members : CharSet) : Expr :=
  let members := members.characters
  match members.ranges with
  | [r] => if r.lo = r.hi then literal [Char.ofNat r.lo] else set members
  | _ => set members

/-- A group, if it is remembered. -/
def remember (body : Expr) (number : Option Nat) : Expr :=
  match number with
  | none => body
  | some number => group number body

/-! ### Repetitions -/

/-- How often to repeat.  What can only match empty texts need not be repeated twice. -/
def usefulCount (body : Expr) (count : Count) : Count :=
  if body.isZeroWidth then
    { count with least := min count.least 1, most := some (min (count.most.getD 1) 1) }
  else count

/-- A repetition.  No repetition at all is the empty text, and just one is the body. -/
def «repeat» (body : Expr) (count : Count) : Expr :=
  let count := body.usefulCount count
  if count.most = some 0 then empty
  else if count.least = 1 ∧ count.most = some 1 then body
  else times count body

/-! ### One after another -/

/-- Puts a part before others.  A text joins with a text behind it. -/
def consPart : Expr → List Expr → List Expr
  | literal s, literal t :: es => literal (s ++ t) :: es
  | e, es => e :: es

/-- Expressions one after another. -/
def all (es : List Expr) : Expr :=
  chain ((es.flatMap parts).foldr consPart [])

/-! ### Alternatives -/

/-- The text of an expression that is one. -/
def text? : Expr → Option (List Char)
  | literal text => some text
  | _ => none

/-- The set of the character of an expression that is one. -/
def char? : Expr → Option CharSet
  | literal [c] => some (.single c)
  | _ => none

/-- The set of an expression that is one. -/
def set? : Expr → Option CharSet
  | set members => some members
  | _ => none

/-- The parts of an expression that has several. -/
def severalParts : Expr → List Expr
  | seq a b => a :: b.parts
  | _ => []

/-- What two lists have in common at their beginnings. -/
def commonStart : List Expr → List Expr → List Expr
  | a :: as, b :: bs => if a = b then a :: commonStart as bs else []
  | _, _ => []

/-- The parts that all of some alternatives begin with, if each has several parts. -/
def sharedStart : List Expr → List Expr
  | [] => []
  | e :: es => es.foldl (fun shared e => commonStart shared e.severalParts) e.severalParts

/-- Alternatives, with what all of them begin with before the choice.  The choice behind it is
    simplified again, up to `limit` times. -/
def anyWithin : (limit : Nat) → List Expr → Expr
  | 0, es => choice es
  | limit + 1, es =>
    match es.flatMap branches with
    | [e] => e
    | branches =>
      if let some sets := (branches.mapM char?).or (branches.mapM set?) then
        ofSet (.unions sets)
      else if let some texts := branches.mapM text? then words texts
      else
        match sharedStart branches with
        | [] => choice branches
        | shared =>
          let rest := branches.map fun e => all (e.severalParts.drop shared.length)
          all (shared ++ [anyWithin limit rest])

/-- Expressions as alternatives.  Each simplification takes away a part of the first of them. -/
def any (es : List Expr) : Expr :=
  anyWithin ((es.map weight).foldl (· + ·) 1) es

end Expr

end SchemaFilter.Pattern
