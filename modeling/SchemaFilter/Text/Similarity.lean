/-!
# How similar two words are

The similarity of Jaro: 1 for equal words, 0 for words without common characters.  Characters are
common when they are equal and not too far apart; common characters in another order count for
less.

* `commonChars` — the common characters of two words, in the order of each word;
* `similarity` — the similarity of two words.
-/

namespace SchemaFilter

/-- Marks in `b` the first character not marked yet that equals `c` and lies from `low` up to, and
    without, `high`; `j` is the offset of the head of `b`.  There may be none. -/
def markFirst? (c : Char) (low high : Nat) : (j : Nat) → (b : List (Char × Bool)) →
    Option (List (Char × Bool))
  | _, [] => none
  | j, (d, marked) :: b =>
    if low ≤ j && j < high && c == d && !marked then some ((d, true) :: b)
    else (markFirst? c low high (j + 1) b).map ((d, marked) :: ·)

/-- The common characters of two words: those of the first, and the second with marks; `i` is the
    offset of the head of the first. -/
def commonFrom (range : Nat) : (i : Nat) → List Char → List (Char × Bool) →
    List Char × List (Char × Bool)
  | _, [], b => ([], b)
  | i, c :: a, b =>
    match markFirst? c (i - range) (i + range + 1) 0 b with
    | some b =>
      let (common, b) := commonFrom range (i + 1) a b
      (c :: common, b)
    | none => commonFrom range (i + 1) a b

/-- The common characters of two words, in the order of the first and in the order of the
    second. -/
def commonChars (a b : List Char) : List Char × List Char :=
  let range := max a.length b.length / 2 - 1
  let (common, marked) := commonFrom range 0 a (b.map (·, false))
  (common, (marked.filter (·.2)).map (·.1))

/-- The similarity of two words. -/
def similarity (a b : List Char) : Float :=
  if a.isEmpty && b.isEmpty then 1
  else
    let (common, reordered) := commonChars a b
    if common.isEmpty then 0
    else
      let moved := ((common.zip reordered).countP fun (c, d) => c != d) / 2
      let count := common.length.toFloat
      (count / a.length.toFloat + count / b.length.toFloat +
        (common.length - moved).toFloat / count) / 3

end SchemaFilter
