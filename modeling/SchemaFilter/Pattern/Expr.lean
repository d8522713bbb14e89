import SchemaFilter.Pattern.Look
import SchemaFilter.Pattern.Syntax

/-!
# What a pattern means

* `Pattern.Expr` — a pattern without the details of its writing;
* `Pattern.Expr.parts`, `Pattern.Expr.branches` — the parts that stand one after another, and the
  alternatives;
* `Pattern.Expr.chain`, `Pattern.Expr.choice` — the expressions of parts and of alternatives;
* `Pattern.Expr.anyLook` — the conditions in an expression;
* `Pattern.Expr.isZeroWidth`, `Pattern.Expr.shortest?` — the lengths of what is matched.

Several parts, and several alternatives, lean to the right: the first of them is never a `seq` or
an `alt`.  The module on simplest forms builds expressions that way.
-/

namespace SchemaFilter.Pattern

/-- A regular expression over characters and conditions on places.  `words` are alternatives that
    are texts throughout; a `group` is remembered by its number. -/
inductive Expr where
  | empty
  | literal (text : List Char)
  | words (texts : List (List Char))
  | set (members : CharSet)
  | look (condition : Look)
  | group (number : Nat) (body : Expr)
  | seq (first second : Expr)
  | alt (first second : Expr)
  | times (count : Count) (body : Expr)
  deriving DecidableEq, Repr

namespace Expr

/-- The parts of an expression that stand one after another. -/
def parts : Expr → List Expr
  | empty => []
  | seq a b => a :: b.parts
  | e => [e]

/-- The alternatives of an expression. -/
def branches : Expr → List Expr
  | words texts => texts.map literal
  | alt a b => a :: b.branches
  | e => [e]

/-- Expressions one after another. -/
def chain : List Expr → Expr
  | [] => empty
  | [e] => e
  | e :: es => seq e (chain es)

/-- Expressions as alternatives. -/
def choice : List Expr → Expr
  | [] => set .empty
  | [e] => e
  | e :: es => alt e (choice es)

/-- How many expressions there are in an expression, itself included. -/
def weight : Expr → Nat
  | empty | literal _ | words _ | set _ | look _ => 1
  | group _ body | times _ body => body.weight + 1
  | seq a b | alt a b => a.weight + b.weight + 1

/-- Is there a condition in an expression that passes a test? -/
def anyLook (test : Look → Bool) : Expr → Bool
  | look condition => test condition
  | empty | literal _ | words _ | set _ => false
  | group _ body | times _ body => body.anyLook test
  | seq a b | alt a b => a.anyLook test || b.anyLook test

/-- Can an expression match nothing but empty texts? -/
def isZeroWidth : Expr → Bool
  | empty | look _ => true
  | literal text => text.isEmpty
  | words texts => texts.all (·.isEmpty)
  | set _ => false
  | group _ body => body.isZeroWidth
  | seq a b | alt a b => a.isZeroWidth && b.isZeroWidth
  | times count body => count.most == some 0 || body.isZeroWidth

/-- The length of the shortest text that an expression may match.  It is unknown where some part
    has no character to match. -/
def shortest? : Expr → Option Nat
  | empty | look _ => some 0
  | literal text => some text.length
  | words texts => (texts.map List.length).min?
  | set members => if members = .empty then none else some 1
  | group _ body => body.shortest?
  | seq a b => do return (← a.shortest?) + (← b.shortest?)
  | alt a b => do return min (← a.shortest?) (← b.shortest?)
  | times count body => do return count.least * (← body.shortest?)

end Expr

end SchemaFilter.Pattern
