/-!
# Sets of characters as ranges of code points

* `CharSet` — a set of characters, held as ranges of code points in increasing order, no two of
  which overlap or touch;
* `CharSet.contains` — membership;
* `CharSet.ofRanges` — brings any ranges into that form;
* union, complement, intersection, difference and symmetric difference;
* `CharSet.ofHex` — reads the range tables of this library.
-/

namespace SchemaFilter

/-- The code points from `lo` to `hi`, both included. -/
structure CodeRange where
  lo : Nat
  hi : Nat
  deriving DecidableEq, Repr

/-- Does a code point lie in the range? -/
def CodeRange.contains (r : CodeRange) (n : Nat) : Bool :=
  r.lo ≤ n && n ≤ r.hi

/-- A set of characters. -/
structure CharSet where
  ranges : List CodeRange
  deriving DecidableEq, Repr

namespace CharSet

/-- The greatest code point. -/
def maxCode : Nat := 0x10FFFF

/-- Does a code point belong to the set? -/
def containsCode (s : CharSet) (n : Nat) : Bool :=
  s.ranges.any (·.contains n)

/-- Does a character belong to the set? -/
def contains (s : CharSet) (c : Char) : Bool :=
  s.containsCode c.toNat

/-- The set without members. -/
def empty : CharSet := ⟨[]⟩

/-- The code points from `lo` to `hi`. -/
def range (lo hi : Nat) : CharSet := ⟨[⟨lo, hi⟩]⟩

/-- Every character. -/
def all : CharSet := range 0 maxCode

/-- The set that holds one character. -/
def single (c : Char) : CharSet := range c.toNat c.toNat

/-- Joins ranges that overlap or touch.  They come in increasing order of their lower ends, and
    `current` is the first of them. -/
def joinTouching (current : CodeRange) : List CodeRange → List CodeRange
  | [] => [current]
  | r :: rs =>
    if r.lo ≤ current.hi + 1 then joinTouching ⟨current.lo, max current.hi r.hi⟩ rs
    else current :: joinTouching r rs

/-- Puts a range before the first that does not begin below it. -/
def insert (r : CodeRange) : List CodeRange → List CodeRange
  | [] => [r]
  | s :: ss => if r.lo ≤ s.lo then r :: s :: ss else s :: insert r ss

/-- The set of the code points in some ranges, given in any order. -/
def ofRanges (rs : List CodeRange) : CharSet :=
  match rs.foldr insert [] with
  | [] => empty
  | r :: rs => ⟨joinTouching r rs⟩

/-- What belongs to one of two sets. -/
def union (a b : CharSet) : CharSet :=
  if a.ranges.isEmpty then b
  else if b.ranges.isEmpty then a
  else ofRanges (a.ranges ++ b.ranges)

/-- What belongs to one of several sets. -/
def unions (sets : List CharSet) : CharSet :=
  ofRanges (sets.flatMap ranges)

/-- The gaps between ranges in increasing order, from `start` up to `top`. -/
def gaps (top : Nat) : (start : Nat) → List CodeRange → List CodeRange
  | start, [] => if start ≤ top then [⟨start, top⟩] else []
  | start, r :: rs =>
    if start < r.lo then ⟨start, r.lo - 1⟩ :: gaps top (r.hi + 1) rs
    else gaps top (r.hi + 1) rs

/-- The code points up to `top` that do not belong to the set. -/
def complementUpTo (top : Nat) (s : CharSet) : CharSet :=
  ⟨gaps top 0 s.ranges⟩

/-- The characters that do not belong to the set. -/
def complement (s : CharSet) : CharSet :=
  s.complementUpTo maxCode

/-- What belongs to both sets. -/
def inter (a b : CharSet) : CharSet :=
  (a.complement.union b.complement).complement

/-- What belongs to the first set and not to the second. -/
def diff (a b : CharSet) : CharSet :=
  (a.complement.union b).complement

/-- What belongs to exactly one of two sets. -/
def symmDiff (a b : CharSet) : CharSet :=
  (a.union b).diff (a.inter b)

/-- The members that are characters: all but the code points from D800 to DFFF. -/
def characters (s : CharSet) : CharSet :=
  ⟨s.ranges.flatMap fun r =>
    [⟨r.lo, min r.hi 0xD7FF⟩, ⟨max r.lo 0xE000, r.hi⟩].filter fun part => part.lo ≤ part.hi⟩

/-- Are all members below 128? -/
def isAscii (s : CharSet) : Bool :=
  s.ranges.all (·.hi < 128)

/-! ### Reading range tables -/

/-- The value of a hexadecimal digit. -/
def hexValue? (c : Char) : Option Nat :=
  if '0' ≤ c ∧ c ≤ '9' then some (c.toNat - 48)
  else if 'A' ≤ c ∧ c ≤ 'F' then some (c.toNat - 55)
  else if 'a' ≤ c ∧ c ≤ 'f' then some (c.toNat - 87)
  else none

/-- What the reader of a table holds between two characters: the ranges read, the last first; the
    lower end of the range being read, once its `-` has come; and the number being read. -/
structure TableReader where
  done : List CodeRange := []
  lower : Option Nat := none
  number : Option Nat := none

/-- Puts the range being read with the others. -/
def TableReader.flush (r : TableReader) : TableReader :=
  match r.number with
  | none => { done := r.done }
  | some hi => { done := ⟨r.lower.getD hi, hi⟩ :: r.done }

/-- Reads one character of a table. -/
def TableReader.next (r : TableReader) (c : Char) : TableReader :=
  match hexValue? c with
  | some d => { r with number := some (16 * r.number.getD 0 + d) }
  | none => if c = '-' then { r with lower := r.number, number := none } else r.flush

/-- Reads a table: code points and ranges `lo-hi` in hexadecimal, in increasing order, with
    blanks between them. -/
def ofHex (table : String) : CharSet :=
  ⟨(table.toList.foldl TableReader.next {}).flush.done.reverse⟩

end CharSet

end SchemaFilter
