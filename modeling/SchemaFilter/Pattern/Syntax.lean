import SchemaFilter.Pattern.Span
import SchemaFilter.Unicode.Lookup

/-!
# The syntax of patterns

A pattern as it is written, with the place of each part.

* `Pattern.Literal`, `Pattern.Assertion`, `Pattern.Shorthand`, `Pattern.Posix` — the leaves;
* `Pattern.ClassNode` — what stands in brackets;
* `Pattern.Node` — a whole pattern.
-/

namespace SchemaFilter.Pattern

/-- A character that stands for itself.  `isByte` tells the escape of two hexadecimal digits after
    `\x`, which stands for a byte where Unicode is off. -/
structure Literal where
  span : Span
  char : Char
  isByte : Bool := false
  deriving DecidableEq, Repr

/-- A condition on the place between two characters. -/
inductive Assertion where
  | lineStart
  | lineEnd
  | textStart
  | textEnd
  | wordBoundary
  | notWordBoundary
  | wordStart
  | wordEnd
  | wordStartHalf
  | wordEndHalf
  deriving DecidableEq, Repr

/-- The classes that one letter after a backslash names. -/
inductive Shorthand where
  | digit
  | space
  | word
  deriving DecidableEq, Repr

/-- The classes named between `[:` and `:]`. -/
inductive Posix where
  | alnum
  | alpha
  | ascii
  | blank
  | cntrl
  | digit
  | graph
  | lower
  | print
  | punct
  | space
  | upper
  | word
  | xdigit
  deriving DecidableEq, Repr

/-- The flags of a pattern. -/
inductive Flag where
  | caseInsensitive
  | multiLine
  | dotMatchesNewLine
  | swapGreed
  | unicode
  | crlf
  | ignoreWhitespace
  deriving DecidableEq, Repr

/-- A flag switched on or off. -/
structure FlagSetting where
  flag : Flag
  enabled : Bool
  deriving DecidableEq, Repr

/-- The operators between classes. -/
inductive ClassOp where
  | intersection
  | difference
  | symmetricDifference
  deriving DecidableEq, Repr

/-- What stands in brackets. -/
inductive ClassNode where
  | empty (span : Span)
  | literal (l : Literal)
  | range (span : Span) (lo hi : Literal)
  | posix (span : Span) (negated : Bool) (kind : Posix)
  | property (span : Span) (negated : Bool) (query : PropertyQuery)
  | shorthand (span : Span) (negated : Bool) (kind : Shorthand)
  | bracket (span : Span) (negated : Bool) (body : ClassNode)
  | union (span : Span) (items : List ClassNode)
  | binary (span : Span) (op : ClassOp) (lhs rhs : ClassNode)

/-- How often a part of a pattern is repeated, where `most = none` sets no bound, and whether few
    repetitions are preferred to many. -/
structure Count where
  least : Nat
  most : Option Nat
  isLazy : Bool := false
  deriving DecidableEq, Repr

/-- A pattern.  A group that is remembered has a number. -/
inductive Node where
  | empty (span : Span)
  | flags (span : Span) (settings : List FlagSetting)
  | literal (l : Literal)
  | dot (span : Span)
  | assertion (span : Span) (kind : Assertion)
  | shorthand (span : Span) (negated : Bool) (kind : Shorthand)
  | property (span : Span) (negated : Bool) (query : PropertyQuery)
  | bracket (span : Span) (negated : Bool) (body : ClassNode)
  | times (span : Span) (count : Count) (body : Node)
  | group (span : Span) (number : Option Nat) (settings : List FlagSetting) (body : Node)
  | alternation (span : Span) (branches : List Node)
  | concat (span : Span) (parts : List Node)

/-- The place of a part of a class. -/
def ClassNode.span : ClassNode → Span
  | empty span | range span .. | posix span .. | property span .. | shorthand span ..
  | bracket span .. | union span .. | binary span .. => span
  | literal l => l.span

/-- The place of a part of a pattern. -/
def Node.span : Node → Span
  | empty span | flags span .. | dot span | assertion span .. | shorthand span ..
  | property span .. | bracket span .. | times span .. | group span .. | alternation span ..
  | concat span .. => span
  | literal l => l.span

/-! ### Parts one after another -/

/-- Alternatives, unless there is only one. -/
def Node.ofBranches (span : Span) : List Node → Node
  | [node] => node
  | nodes => .alternation span nodes

/-- Parts one after another, unless there is only one, or none. -/
def Node.ofParts (span : Span) : List Node → Node
  | [] => .empty span
  | [node] => node
  | nodes => .concat span nodes

/-- The items of a class, unless there is only one, or none. -/
def ClassNode.ofItems (span : Span) : List ClassNode → ClassNode
  | [] => .empty span
  | [item] => item
  | items => .union span items

end SchemaFilter.Pattern
