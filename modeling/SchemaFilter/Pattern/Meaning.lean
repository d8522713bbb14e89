import SchemaFilter.Pattern.Cursor
import SchemaFilter.Pattern.Simplify

/-!
# From the syntax of a pattern to its meaning

* `Pattern.Flags` — the flags in force;
* `Pattern.ClassNode.members` — the characters of a class;
* `Pattern.Node.expr` — the expression of a pattern.

Patterns match texts, so a part that could match half of a character is refused.  Only where
Unicode is off could there be one: a byte above 127, the complement of ASCII characters, or the dot.
-/

namespace SchemaFilter.Pattern

/-- The flags in force. -/
structure Flags where
  caseInsensitive : Bool := false
  multiLine : Bool := false
  dotMatchesNewLine : Bool := false
  swapGreed : Bool := false
  unicode : Bool := true
  crlf : Bool := false
  deriving DecidableEq, Repr

namespace Flags

/-- Switches one flag. -/
def switch (flags : Flags) (s : FlagSetting) : Flags :=
  match s.flag with
  | .caseInsensitive => { flags with caseInsensitive := s.enabled }
  | .multiLine => { flags with multiLine := s.enabled }
  | .dotMatchesNewLine => { flags with dotMatchesNewLine := s.enabled }
  | .swapGreed => { flags with swapGreed := s.enabled }
  | .unicode => { flags with unicode := s.enabled }
  | .crlf => { flags with crlf := s.enabled }
  | .ignoreWhitespace => flags

/-- Switches several flags. -/
def switchAll (flags : Flags) (settings : List FlagSetting) : Flags :=
  settings.foldl switch flags

/-- The characters of words. -/
def word (flags : Flags) : WordKind :=
  if flags.unicode then .unicode else .ascii

/-- How lines end. -/
def lineEnds (flags : Flags) : LineEnds :=
  if flags.crlf then .crlf else .lf

/-- How often a part is repeated.  The flag makes lazy what is not and what is not lazy. -/
def count (flags : Flags) (count : Count) : Count :=
  { count with isLazy := count.isLazy != flags.swapGreed }

/-- A set, with what is equal to a member up to case where case makes no difference. -/
def fold (flags : Flags) (set : CharSet) : CharSet :=
  if !flags.caseInsensitive then set
  else if flags.unicode then set.foldCase
  else set.foldAsciiCase

/-- A set or its complement.  Where Unicode is off the complement is one of bytes, so it holds
    bytes above 127. -/
def complementIf (flags : Flags) (span : Span) (negated : Bool) (set : CharSet) :
    Reading CharSet :=
  if flags.unicode then .ok (if negated then set.complement else set)
  else
    let set := if negated then set.complementUpTo 0xFF else set
    if set.isAscii then .ok set else .error ⟨.invalidUtf8, span⟩

end Flags

/-! ### Classes -/

/-- The characters of a named class. -/
def Posix.members : Posix → CharSet
  | alnum => .ofHex "30-39 41-5A 61-7A"
  | alpha => .ofHex "41-5A 61-7A"
  | ascii => .ofHex "0-7F"
  | blank => .ofHex "9 20"
  | cntrl => .ofHex "0-1F 7F"
  | digit => .ofHex "30-39"
  | graph => .ofHex "21-7E"
  | lower => .ofHex "61-7A"
  | print => .ofHex "20-7E"
  | punct => .ofHex "21-2F 3A-40 5B-60 7B-7E"
  | space => .ofHex "9-D 20"
  | upper => .ofHex "41-5A"
  | word => asciiWord
  | xdigit => .ofHex "30-39 41-46 61-66"

/-- The characters of the class that one letter names. -/
def Shorthand.members (flags : Flags) : Shorthand → CharSet
  | digit => if flags.unicode then Category.decimalNumber else Posix.digit.members
  | space => if flags.unicode then Property.whiteSpace else Posix.space.members
  | word => flags.word.members

/-- The characters of a shorthand or of its complement.  Shorthands are closed under case. -/
def Shorthand.membersIf (flags : Flags) (span : Span) (negated : Bool) (kind : Shorthand) :
    Reading CharSet :=
  flags.complementIf span negated (kind.members flags)

/-- The characters with a property. -/
def propertyMembers (flags : Flags) (span : Span) (negated : Bool) (query : PropertyQuery) :
    Reading CharSet :=
  if flags.unicode then
    match query.members with
    | .ok set => flags.complementIf span negated (flags.fold set)
    | .error .property => .error ⟨.propertyNotFound, span⟩
    | .error .value => .error ⟨.propertyValueNotFound, span⟩
  else .error ⟨.unicodeNotAllowed, span⟩

/-- The character of a literal. -/
def Literal.scalar (flags : Flags) (l : Literal) : Reading Char :=
  if !flags.unicode && l.isByte && 127 < l.char.toNat then .error ⟨.invalidUtf8, l.span⟩
  else .ok l.char

/-- The character of a literal in a class, which must be ASCII where Unicode is off. -/
def Literal.classScalar (flags : Flags) (l : Literal) : Reading Char := do
  let c ← l.scalar flags
  if !flags.unicode && 127 < c.toNat then .error ⟨.unicodeNotAllowed, l.span⟩ else return c

/-- The characters that an operator leaves of two sets. -/
def ClassOp.apply : ClassOp → CharSet → CharSet → CharSet
  | intersection => CharSet.inter
  | difference => CharSet.diff
  | symmetricDifference => CharSet.symmDiff

mutual

/-- The characters of a class. -/
def ClassNode.members (flags : Flags) : ClassNode → Reading CharSet
  | .empty _ => .ok .empty
  | .literal l => do return .single (← l.classScalar flags)
  | .range _ lo hi => do
    let lo ← lo.classScalar flags
    let hi ← hi.classScalar flags
    return .range lo.toNat hi.toNat
  | .posix span negated kind => flags.complementIf span negated (flags.fold kind.members)
  | .property span negated query => propertyMembers flags span negated query
  | .shorthand span negated kind => kind.membersIf flags span negated
  | .bracket span negated body => do
    flags.complementIf span negated (flags.fold (← body.members flags))
  | .union _ items => ClassNode.allMembers flags items
  | .binary _ op lhs rhs => do
    let lhs ← lhs.members flags
    let rhs ← rhs.members flags
    return op.apply (flags.fold lhs) (flags.fold rhs)

/-- The characters of some classes together. -/
def ClassNode.allMembers (flags : Flags) : List ClassNode → Reading CharSet
  | [] => .ok .empty
  | item :: items => do
    let set ← item.members flags
    return set.union (← ClassNode.allMembers flags items)

end

/-! ### Patterns -/

/-- The condition of an assertion. -/
def Assertion.look (flags : Flags) : Assertion → Look
  | lineStart => if flags.multiLine then .lineStart flags.lineEnds else .textStart
  | lineEnd => if flags.multiLine then .lineEnd flags.lineEnds else .textEnd
  | textStart => .textStart
  | textEnd => .textEnd
  | wordBoundary => .wordBoundary flags.word
  | notWordBoundary => .notWordBoundary flags.word
  | wordStart => .wordStart flags.word
  | wordEnd => .wordEnd flags.word
  | wordStartHalf => .wordStartHalf flags.word
  | wordEndHalf => .wordEndHalf flags.word

/-- The characters that the dot stands for. -/
def dotMembers (flags : Flags) : CharSet :=
  if flags.dotMatchesNewLine then .all
  else if flags.crlf then (CharSet.ofHex "A D").complement
  else (CharSet.ofHex "A").complement

/-- The expression of a literal. -/
def Literal.expr (flags : Flags) (l : Literal) : Reading Expr := do
  let c ← l.scalar flags
  return .ofSet (flags.fold (.single c))

mutual

/-- The expression of a pattern, and the flags in force behind it. -/
def Node.exprWith (flags : Flags) : Node → Reading (Expr × Flags)
  | .empty _ => .ok (.empty, flags)
  | .flags _ settings => .ok (.empty, flags.switchAll settings)
  | .literal l => do return (← l.expr flags, flags)
  | .dot span =>
    if flags.unicode then .ok (.ofSet (dotMembers flags), flags) else .error ⟨.invalidUtf8, span⟩
  | .assertion _ kind => .ok (.look (kind.look flags), flags)
  | .shorthand span negated kind => do
    return (.ofSet (← kind.membersIf flags span negated), flags)
  | .property span negated query => do
    return (.ofSet (← propertyMembers flags span negated query), flags)
  | .bracket span negated body => do
    let set ← body.members flags
    return (.ofSet (← flags.complementIf span negated (flags.fold set)), flags)
  | .times _ count body => do
    let (e, flags) ← body.exprWith flags
    return (e.repeat (flags.count count), flags)
  | .group _ number settings body => do
    let (e, _) ← body.exprWith (flags.switchAll settings)
    return (e.remember number, flags)
  | .alternation _ branches => do
    let (es, flags) ← Node.exprsWith flags branches
    return (.any es, flags)
  | .concat _ parts => do
    let (es, flags) ← Node.exprsWith flags parts
    return (.all es, flags)

/-- The expressions of some patterns, each with the flags in force behind the one before. -/
def Node.exprsWith (flags : Flags) : List Node → Reading (List Expr × Flags)
  | [] => .ok ([], flags)
  | node :: nodes => do
    let (e, flags) ← node.exprWith flags
    let (es, flags) ← Node.exprsWith flags nodes
    return (e :: es, flags)

end

/-- The expression of a pattern. -/
def Node.expr (node : Node) : Reading Expr := do
  let (e, _) ← node.exprWith {}
  return e

end SchemaFilter.Pattern
