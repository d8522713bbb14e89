import SchemaFilter.Text.Split
import SchemaFilter.Unicode.CaseOrbitTable

/-!
# Sets closed under case

* `CaseOrbit.all` — the groups of characters that are equal up to case;
* `CharSet.foldCase` — a set with everything that is equal up to case to a member;
* `CharSet.foldAsciiCase` — the same, looking at the letters `A` to `Z` only.
-/

namespace SchemaFilter

namespace CaseOrbit

/-- The groups of at least two characters that are equal up to case, as code points. -/
def all : List (List Nat) :=
  let spaced := table.toList.map fun c => if c = '\n' then ' ' else c
  ((piecesAt ' ' spaced).filter (· ≠ [])).map fun group =>
    (piecesAt '+' group).map fun digits =>
      digits.foldl (fun n c => 16 * n + (CharSet.hexValue? c).getD 0) 0

end CaseOrbit

namespace CharSet

/-- The members of the set, and every character that is equal to one of them up to case. -/
def foldCase (s : CharSet) : CharSet :=
  let met := CaseOrbit.all.filter (·.any s.containsCode)
  s.union (ofRanges (met.flatten.map fun n => ⟨n, n⟩))

/-- The members of the set, and every ASCII letter that is equal to one of them up to case. -/
def foldAsciiCase (s : CharSet) : CharSet :=
  let upper := s.inter (range 0x41 0x5A)
  let lower := s.inter (range 0x61 0x7A)
  unions [s, ⟨upper.ranges.map fun r => ⟨r.lo + 32, r.hi + 32⟩⟩,
    ⟨lower.ranges.map fun r => ⟨r.lo - 32, r.hi - 32⟩⟩]

end CharSet

end SchemaFilter
