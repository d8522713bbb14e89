import SchemaFilter.Pattern.Expr

/-!
# Searching a text for a pattern

The places of a text are numbered from 0, the place before its first character.  An expression
takes a set of places to the places where a match can end that begins at one of them; a text is
matched when the set of all places is taken to a set that is not empty.

* `Pattern.Places` — sets of places;
* `Pattern.Expr.run` — from the places where matches begin to the places where they end;
* `Pattern.Expr.occursIn` — is there a match anywhere in a text?
-/

namespace SchemaFilter.Pattern

/-- A set of places, as the bits of a number. -/
structure Places where
  bits : Nat
  deriving DecidableEq, Repr

namespace Places

/-- The set without places. -/
def none : Places := ⟨0⟩

/-- The first `count` places. -/
def first (count : Nat) : Places := ⟨(1 <<< count) - 1⟩

/-- The places in one of two sets. -/
def union (a b : Places) : Places := ⟨a.bits ||| b.bits⟩

/-- The places in both of two sets. -/
def inter (a b : Places) : Places := ⟨a.bits &&& b.bits⟩

/-- The places behind those of a set. -/
def next (a : Places) : Places := ⟨a.bits <<< 1⟩

/-- The set with the place 0 if `here`, and the places behind those of `later`. -/
def cons (here : Bool) (later : Places) : Places :=
  ⟨2 * later.bits + here.toNat⟩

/-- Are there no places in the set? -/
def isEmpty (a : Places) : Bool := a.bits == 0

end Places

/-- The places of a text before the characters in a set. -/
def beforeMembers (set : CharSet) : List Char → Places
  | [] => .none
  | c :: cs => .cons (set.contains c) (beforeMembers set cs)

/-- The places of a text where a condition holds, given the character before the text. -/
def whereHolds (look : Look) (before : Option Char) : List Char → Places
  | [] => .cons (look.holds before Option.none) .none
  | c :: cs => .cons (look.holds before (some c)) (whereHolds look (some c) cs)

/-- From some places past a character in a set. -/
def step (text : List Char) (set : CharSet) (places : Places) : Places :=
  (places.inter (beforeMembers set text)).next

/-- From some places past a text. -/
def stepPast (text : List Char) (word : List Char) (places : Places) : Places :=
  word.foldl (fun places c => step text (.single c) places) places

/-- Takes a step `count` times.  A step that changes nothing need not be taken again. -/
def iterate (step : Places → Places) : (count : Nat) → Places → Places
  | 0, places => places
  | count + 1, places =>
    let next := step places
    if next = places then places else iterate step count next

/-- Takes a step up to `count` times. -/
def iterateUpTo (step : Places → Places) (count : Nat) (places : Places) : Places :=
  iterate (fun places => places.union (step places)) count places

/-- The places where a match can end that begins at one of some places.  A repetition without bound
    reaches no new place after as many steps as there are places. -/
def Expr.run (text : List Char) : Expr → Places → Places
  | empty, places => places
  | literal word, places => stepPast text word places
  | words texts, places =>
    texts.foldl (fun reached word => reached.union (stepPast text word places)) .none
  | set members, places => step text members places
  | look condition, places => places.inter (whereHolds condition none text)
  | group _ body, places => body.run text places
  | seq a b, places => b.run text (a.run text places)
  | alt a b, places => (a.run text places).union (b.run text places)
  | times count body, places =>
    let more := match count.most with
      | none => text.length + 1
      | some most => most - count.least
    iterateUpTo (body.run text) more (iterate (body.run text) count.least places)

/-- Is there a match anywhere in a text? -/
def Expr.occursIn (e : Expr) (text : List Char) : Bool :=
  !(e.run text (.first (text.length + 1))).isEmpty

end SchemaFilter.Pattern
