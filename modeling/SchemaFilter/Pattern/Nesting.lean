import SchemaFilter.Pattern.Flaw
import SchemaFilter.Pattern.Syntax

/-!
# How deep a pattern is nested

Classes, repetitions, groups, alternations, and parts written one after another count one level
each; so do bracketed classes in a class, lists of class items, and operators between classes.

* `Pattern.Node.tooDeep?` — the first part, in the order of writing, that is nested too deep.
-/

namespace SchemaFilter.Pattern

mutual

/-- The first part of a class nested deeper than the limit, where `depth` levels are around it. -/
def ClassNode.tooDeep? (depth : Nat) : ClassNode → Option Span
  | .bracket span _ body =>
    if nestingLimit ≤ depth then some span else body.tooDeep? (depth + 1)
  | .union span items =>
    if nestingLimit ≤ depth then some span else ClassNode.anyTooDeep? (depth + 1) items
  | .binary span _ lhs rhs =>
    if nestingLimit ≤ depth then some span
    else (lhs.tooDeep? (depth + 1)).or (rhs.tooDeep? (depth + 1))
  | _ => none

/-- The first part of some class items nested deeper than the limit. -/
def ClassNode.anyTooDeep? (depth : Nat) : List ClassNode → Option Span
  | [] => none
  | item :: items => (item.tooDeep? depth).or (ClassNode.anyTooDeep? depth items)

end

mutual

/-- The first part of a pattern nested deeper than the limit, where `depth` levels are around
    it. -/
def Node.tooDeep? (depth : Nat) : Node → Option Span
  | .bracket span _ body =>
    if nestingLimit ≤ depth then some span else body.tooDeep? (depth + 1)
  | .times span _ body =>
    if nestingLimit ≤ depth then some span else body.tooDeep? (depth + 1)
  | .group span _ _ body =>
    if nestingLimit ≤ depth then some span else body.tooDeep? (depth + 1)
  | .alternation span branches =>
    if nestingLimit ≤ depth then some span else Node.anyTooDeep? (depth + 1) branches
  | .concat span parts =>
    if nestingLimit ≤ depth then some span else Node.anyTooDeep? (depth + 1) parts
  | _ => none

/-- The first part of some patterns nested deeper than the limit. -/
def Node.anyTooDeep? (depth : Nat) : List Node → Option Span
  | [] => none
  | node :: nodes => (node.tooDeep? depth).or (Node.anyTooDeep? depth nodes)

end

end SchemaFilter.Pattern
