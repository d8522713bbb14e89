import SchemaFilter.Unicode.CharSet

/-!
# The encodings of sets of characters

* `ByteRanges` — bytes one after another, each from a range;
* `CharSet.encodings` — the UTF-8 encodings of the characters of a set.

The bytes behind the first hold six bits each, so the encodings of a range of characters are numbers
to base 64, of which all but the first digits run through whole ranges.
-/

namespace SchemaFilter

/-- Bytes one after another, each from a range. -/
abbrev ByteRanges := List CodeRange

/-- The range with `offset` added. -/
def CodeRange.shift (r : CodeRange) (offset : Nat) : CodeRange :=
  ⟨r.lo + offset, r.hi + offset⟩

/-- The numbers from `lo` to `hi` of `places + 1` digits to base 64, as sequences of ranges of
    digits.  Only the first digit may be above 63. -/
def digitRanges : (places : Nat) → (lo hi : Nat) → List (List CodeRange)
  | 0, lo, hi => [[⟨lo, hi⟩]]
  | places + 1, lo, hi =>
    let unit := 1 <<< (6 * (places + 1))
    let first := lo / unit
    let last := hi / unit
    if first = last then
      (digitRanges places (lo % unit) (hi % unit)).map (⟨first, first⟩ :: ·)
    else
      let fromStart := lo % unit = 0
      let toEnd := hi % unit = unit - 1
      let low :=
        if fromStart then []
        else (digitRanges places (lo % unit) (unit - 1)).map (⟨first, first⟩ :: ·)
      let high :=
        if toEnd then []
        else (digitRanges places 0 (hi % unit)).map (⟨last, last⟩ :: ·)
      let first := if fromStart then first else first + 1
      let last := if toEnd then last else last - 1
      let whole :=
        if first ≤ last then [⟨first, last⟩ :: List.replicate (places + 1) ⟨0, 63⟩] else []
      low ++ whole ++ high

/-- The characters that take equally many bytes. -/
structure EncodingLength where
  within : CodeRange
  following : Nat
  mark : Nat
  deriving DecidableEq, Repr

/-- The characters by the number of bytes that follow the first, with what marks the first. -/
def encodingLengths : List EncodingLength :=
  [{ within := ⟨0, 0x7F⟩, following := 0, mark := 0 },
    { within := ⟨0x80, 0x7FF⟩, following := 1, mark := 0xC0 },
    { within := ⟨0x800, 0xFFFF⟩, following := 2, mark := 0xE0 },
    { within := ⟨0x10000, 0x10FFFF⟩, following := 3, mark := 0xF0 }]

/-- The bytes of some digits.  The first byte has a mark that tells the number of bytes. -/
def EncodingLength.bytes (length : EncodingLength) : List CodeRange → ByteRanges
  | [] => []
  | first :: following => first.shift length.mark :: following.map (·.shift 0x80)

/-- The UTF-8 encodings of the characters of a set, in increasing order. -/
def CharSet.encodings (s : CharSet) : List ByteRanges :=
  encodingLengths.flatMap fun length =>
    s.characters.ranges.flatMap fun r =>
      let lo := max r.lo length.within.lo
      let hi := min r.hi length.within.hi
      if lo ≤ hi then (digitRanges length.following lo hi).map length.bytes else []

end SchemaFilter
