/-!
# The shortest text of a binary fraction

A number is written with the fewest decimal digits that are read back as the same number; of the
texts with that many digits, the nearest is chosen, and of two equally near ones the even one.

* `Binary` — a number `significand * 2 ^ exponent` with the numbers that round to it;
* `Binary.shortest` — its digits and the power of ten of the last;
* `decimalText` — how digits are laid out.
-/

namespace SchemaFilter.Json

/-- A number `significand * 2 ^ exponent`.  `narrow` tells that the next smaller number is only half
    as far away as the next greater one. -/
structure Binary where
  significand : Nat
  exponent : Int
  narrow : Bool

namespace Binary

/-- A positive number of double precision. -/
def ofFloat (f : Float) : Binary :=
  let bits : Nat := f.toBits.toNat % (1 <<< 63)
  let exponent : Nat := bits / (1 <<< 52)
  let fraction : Nat := bits % (1 <<< 52)
  if exponent = 0 then ⟨fraction, -1074, false⟩
  else ⟨(1 <<< 52) + fraction, (exponent : Int) - 1075, fraction == 0 && exponent != 1⟩

/-- A multiple of a power of two. -/
def scaled (n : Rat) (exponent : Int) : Rat :=
  n * (2 : Rat) ^ exponent

/-- The number itself. -/
def value (b : Binary) : Rat :=
  scaled b.significand b.exponent

/-- Does a number round to this one?  An even significand attracts the numbers half way. -/
def attracts (b : Binary) (x : Rat) : Bool :=
  let low := scaled (b.significand - (if b.narrow then 1 / 4 else 1 / 2 : Rat)) b.exponent
  let high := scaled (b.significand + (1 / 2 : Rat)) b.exponent
  (low < x && x < high) || (b.significand % 2 == 0 && (x == low || x == high))

/-- The multiple of `10 ^ place` that is nearest to the number, if it rounds to the number. -/
def onGrid? (b : Binary) (place : Int) : Option Nat :=
  let step := (10 : Rat) ^ place
  let below := (b.value / step).floor.toNat
  let candidates : List Nat := [below, below + 1].filter fun n => b.attracts ((n : Rat) * step)
  match candidates with
  | [n, m] =>
    let down := b.value - (n : Rat) * step
    let up := (m : Rat) * step - b.value
    some (if down < up then n else if up < down then m else if n % 2 = 0 then n else m)
  | n :: _ => some n
  | [] => none

/-- The digits of the shortest text, and the power of ten of the last digit, looking at `limit`
    powers downwards from `place`. -/
def shortestFrom (b : Binary) : (limit : Nat) → (place : Int) → Nat × Int
  | 0, place => (0, place)
  | limit + 1, place =>
    match b.onGrid? place with
    | some (n + 1) => (n + 1, place)
    | _ => shortestFrom b limit (place - 1)

/-- The digits of the shortest text, and the power of ten of the last digit. -/
def shortest (b : Binary) : Nat × Int :=
  b.shortestFrom 640 310

end Binary

/-- A count of zeros. -/
def zeros (count : Int) : List Char :=
  List.replicate count.toNat '0'

/-- Lays out digits of which the last counts `10 ^ place`.  Up to 16 digits stand before the point,
    and up to 4 zeros behind it before the first digit; else there is an exponent with its sign. -/
def decimalText (digits : List Char) (place : Int) : List Char :=
  let length : Int := digits.length
  let point := length + place
  if 0 ≤ place && point ≤ 16 then digits ++ zeros place ++ ['.', '0']
  else if 0 < point && point ≤ 16 then
    digits.take point.toNat ++ ['.'] ++ digits.drop point.toNat
  else if -5 < point && point ≤ 0 then ['0', '.'] ++ zeros (-point) ++ digits
  else
    let sign := if 0 < point then ['+'] else []
    let exponent := ['e'] ++ sign ++ (toString (point - 1)).toList
    match digits with
    | [d] => [d] ++ exponent
    | d :: ds => [d, '.'] ++ ds ++ exponent
    | [] => exponent

/-- The shortest text of a finite number. -/
def shortestText (f : Float) : String :=
  let sign := if f.toBits.toNat / (1 <<< 63) = 1 then ['-'] else []
  let b := Binary.ofFloat f
  .ofList <| sign ++
    (if b.significand = 0 then ['0', '.', '0']
    else
      let (digits, place) := b.shortest
      decimalText (toString digits).toList place)

end SchemaFilter.Json
