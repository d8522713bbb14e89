import SchemaFilter.Json.Fault
import SchemaFilter.Json.ShortestFloat

/-!
# Numbers in JSON texts

No number is ever asked for, but one that stands in the place of something else is named by its
value.  Numbers without fraction and exponent that fit in 64 bits are integers; others are rounded
to double precision.

* `Json.readNumber` — reads a number and words it;
* `Json.skipNumber` — passes over a number.
-/

namespace SchemaFilter.Json

/-- The digits that a text begins with, and what follows. -/
def takeDigits (text : List Char) : List Char × List Char :=
  text.span Char.isDigit

/-! ### Values -/

/-- The greatest number of 64 bits. -/
def maxWord : Nat := (1 <<< 64) - 1

/-- Appends digits to a number as long as it fits in 64 bits, and tells how many were not
    appended. -/
def absorb (n : Nat) : List Char → Nat × Nat
  | [] => (n, 0)
  | d :: ds =>
    let next := 10 * n + (d.toNat - 48)
    if maxWord < next then (n, ds.length + 1) else absorb next ds

/-- Divides by powers of ten down to `10 ^ exponent`, in at most `limit` steps. -/
def scaleDown : (limit : Nat) → Float → (exponent : Nat) → Float
  | 0, f, _ => f
  | limit + 1, f, exponent =>
    if exponent ≤ 308 then f / Float.ofScientific 1 false exponent
    else if f == 0 then f
    else scaleDown limit (f / Float.ofScientific 1 false 308) (exponent - 308)

/-- The number `significand * 10 ^ exponent`, rounded step by step.  A number other than 0 does not
    survive three of the steps down. -/
def scaleFloat (significand : Nat) (exponent : Int) : Except Fault Float :=
  let f := significand.toUInt64.toFloat
  match exponent with
  | .ofNat up =>
    if up ≤ 308 then
      let f := f * Float.ofScientific 1 false up
      if f.isInf then .error .numberOutOfRange else .ok f
    else if significand = 0 then .ok f
    else .error .numberOutOfRange
  | .negSucc down => .ok (scaleDown 4 f (down + 1))

/-- The parts of a number: the digits before the point, those behind it, and the exponent. -/
structure NumberParts where
  negative : Bool
  whole : List Char
  fraction : Option (List Char)
  exponent : Option (Bool × List Char)

namespace NumberParts

/-- The wording of a number that is no integer. -/
def floatText (n : NumberParts) : Except Fault String := do
  let (significand, dropped) := absorb 0 n.whole
  let fraction := n.fraction.getD []
  let (significand, ignored) := absorb significand fraction
  let place : Int := (dropped : Int) - ((fraction.length - ignored : Nat) : Int)
  let (down, digits) := n.exponent.getD (false, [])
  let written : Nat := digits.foldl (fun e d => 10 * e + (d.toNat - 48)) 0
  let f ←
    if 1 <<< 31 ≤ written then
      if significand ≠ 0 && !down then .error .numberOutOfRange else .ok 0
    else scaleFloat significand (place + if down then -(written : Int) else written)
  return "floating point `" ++ shortestText (if n.negative then -f else f) ++ "`"

/-- The wording of a number. -/
def text (n : NumberParts) : Except Fault String :=
  match n.fraction, n.exponent, absorb 0 n.whole with
  | none, none, (significand, 0) =>
    if !n.negative then .ok ("integer `" ++ toString significand ++ "`")
    else if 0 < significand && significand ≤ 1 <<< 63 then
      .ok ("integer `-" ++ toString significand ++ "`")
    else n.floatText
  | _, _, _ => n.floatText

end NumberParts

/-! ### Reading -/

/-- Reads the exponent behind an `e`: whether it is negative, and its digits. -/
def readExponent (text : List Char) : Except Fault ((Bool × List Char) × List Char) :=
  let (negative, text) :=
    match text with
    | '+' :: rest => (false, rest)
    | '-' :: rest => (true, rest)
    | _ => (false, text)
  match takeDigits text with
  | ([], []) => .error .endInValue
  | ([], _) => .error .invalidNumber
  | (digits, rest) => .ok ((negative, digits), rest)

/-- Reads the exponent of a number, if there is one. -/
def readExponent? : Read (Option (Bool × List Char))
  | 'e' :: rest | 'E' :: rest => do
    let (exponent, rest) ← readExponent rest
    return (some exponent, rest)
  | text => .ok (none, text)

/-- Reads the digits behind the point, if there is one. -/
def readFraction? : Read (Option (List Char))
  | '.' :: rest =>
    match takeDigits rest with
    | ([], []) => .error .endInValue
    | ([], _) => .error .invalidNumber
    | (digits, rest) => .ok (some digits, rest)
  | text => .ok (none, text)

/-- Reads the digits before the point: a zero alone, or digits of which the first is none. -/
def readWhole (text : List Char) : Except Fault (List Char × List Char) :=
  match takeDigits text with
  | ([], []) => .error .endInValue
  | ([], _) => .error .invalidNumber
  | ('0' :: _ :: _, _) => .error .invalidNumber
  | (digits, rest) => .ok (digits, rest)

/-- Reads a number, and words it. -/
def readNumber (text : List Char) : Except Fault (String × List Char) := do
  let (negative, text) :=
    match text with
    | '-' :: rest => (true, rest)
    | _ => (false, text)
  let (whole, text) ← readWhole text
  let (fraction, text) ← readFraction? text
  let (exponent, text) ← readExponent? text
  return (← { negative, whole, fraction, exponent : NumberParts }.text, text)

/-- Passes over a number.  Where its value does not matter, a number that breaks off is wrong and
    not unfinished. -/
def skipNumber (text : List Char) : Except Fault (List Char) :=
  let parts : Except Fault (List Char) := do
    let (_, text) ← readWhole (if text.head? = some '-' then text.tail else text)
    let (_, text) ← readFraction? text
    let (_, text) ← readExponent? text
    return text
  parts.mapError fun
    | .endInValue => .invalidNumber
    | fault => fault

end SchemaFilter.Json
