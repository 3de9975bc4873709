import Gridwalk.Number.Double

/-!
# The shortest decimal of a double

Every decimal in a certain interval around a finite double reads back as that double: the
interval reaches half way to both neighbours, and its ends belong to it when the significand is
even. The shortest decimal is the one with the fewest digits in the interval and, of those, the
nearest to the double.

**Search.** For one digit, two digits and so on, the decimals with that many digits form a grid,
and if any point of the grid lies in the interval then so does one of the two neighbours of the
double on it. The first grid with a hit wins; of two hits, the nearer; of two equally near, the
one that the notation prefers.
-/

namespace Gridwalk.Double

/-- The decimal `0.d₁d₂d₃… · 10 ^ point`. -/
structure Digits where
  digits : List Char
  point : Int
  deriving DecidableEq, Repr

/-- The least power of ten above a positive quotient. -/
def decimalPoint (n d : Nat) : Int :=
  if d ≤ n then digitCount (n / d)
  else
    let t := digitCount (d / n)
    if n * Nat.pow 10 (t - 1) = d then 2 - t else 1 - t

/-- Which of two equally near integers is taken. -/
inductive Tie where
  | larger
  | even
  deriving DecidableEq, Repr

/-- The decimals that read back as a finite positive double: from `low / scale` to
`high / scale`, with the ends if `closed`; the double itself is `value / scale`. -/
structure Interval where
  low : Nat
  value : Nat
  high : Nat
  scale : Nat
  closed : Bool

namespace Interval

def ofDouble (x : Double) : Interval :=
  let m := x.significand
  let below := if x.fraction = 0 ∧ 1 < x.biased then 1 else 2
  let unit := if 1074 ≤ x.power then 1 <<< (x.power - 1074) else 1
  { low := (4 * m - below) * unit
    value := 4 * m * unit
    high := (4 * m + 2) * unit
    scale := if 1074 ≤ x.power then 4 else 4 <<< (1074 - x.power)
    closed := m % 2 == 0 }

/-- The same interval in units of `10 ^ e`. -/
def inPowers (i : Interval) (e : Int) : Interval :=
  if 0 ≤ e then { i with scale := i.scale * Nat.pow 10 e.toNat }
  else
    let f := Nat.pow 10 (-e).toNat
    { i with low := i.low * f, value := i.value * f, high := i.high * f }

/-- The integer lies in the interval. -/
def holds (i : Interval) (n : Nat) : Bool :=
  if i.closed then i.low ≤ n * i.scale && n * i.scale ≤ i.high
  else i.low < n * i.scale && n * i.scale < i.high

/-- The integer of the interval that is nearest to the value. -/
def nearest? (tie : Tie) (i : Interval) : Option Nat :=
  let down := i.value / i.scale
  let rest := i.value % i.scale
  match i.holds down, i.holds (down + 1) with
  | true, true =>
    if 2 * rest < i.scale then some down
    else if i.scale < 2 * rest then some (down + 1)
    else match tie with
      | .larger => some (down + 1)
      | .even => some (down + down % 2)
  | true, false => some down
  | false, true => some (down + 1)
  | false, false => none

end Interval

/-- The digits of a number without the zeros at its end. -/
def significantDigits (n : Nat) : List Char :=
  ((Nat.toDigits 10 n).reverse.dropWhile (· == '0')).reverse

/-- The shortest decimal that reads back as a finite positive double. -/
def shortest (tie : Tie) (x : Double) : Digits :=
  let i := Interval.ofDouble x
  let point := decimalPoint i.value i.scale
  let found := (List.range 17).findSome? fun (k : Nat) =>
    ((i.inPowers (point - (k + 1))).nearest? tie).map fun n => (n, k + 1)
  match found with
  | some (n, k) => ⟨significantDigits n, point - k + digitCount n⟩
  | none => ⟨['0'], 1⟩

/-- How the decimal of a double is written: positionally as long as the decimal point stands
from `lowest` to `highest`, with a power of ten otherwise. With `plus`, a power that is not
negative carries its sign. -/
structure Notation where
  tie : Tie
  lowest : Int
  highest : Int
  plus : Bool

/-- Script numbers are written positionally from `0.0001` to below `10 ^ 16`, and above that
without a sign, as in `1e16`. -/
def scriptNotation : Notation := ⟨.larger, -3, 16, false⟩

/-- Numbers in complaints about a document are written positionally from `0.00001` to below
`10 ^ 16`, and above that with a sign, as in `1e+16`. -/
def documentNotation : Notation := ⟨.even, -4, 16, true⟩

/-- The text of a power of ten. -/
def Notation.writePower (f : Notation) (power : Int) : List Char :=
  let text := (toString power).toList
  'e' :: if f.plus ∧ 0 ≤ power then '+' :: text else text

/-- The text of a decimal. Positional notation keeps at least one digit behind the point. -/
def Notation.write (f : Notation) (d : Digits) : List Char :=
  let count := d.digits.length
  if f.lowest ≤ d.point ∧ d.point ≤ f.highest then
    if d.point ≤ 0 then ['0', '.'] ++ List.replicate (-d.point).toNat '0' ++ d.digits
    else
      let whole := d.point.toNat
      if count ≤ whole then d.digits ++ List.replicate (whole - count) '0' ++ ['.', '0']
      else d.digits.take whole ++ ['.'] ++ d.digits.drop whole
  else
    let power := f.writePower (d.point - 1)
    match d.digits with
    | [] => []
    | [a] => a :: power
    | a :: rest => a :: '.' :: (rest ++ power)

/-- The text of a double. -/
def write (f : Notation) (x : Double) : String :=
  if x.isNaN then "NaN"
  else
    let body :=
      if !x.isFinite then ['i', 'n', 'f']
      else if x.magnitude = 0 then ['0', '.', '0']
      else f.write (x.shortest f.tie)
    String.ofList (if x.isNegative then '-' :: body else body)

end Gridwalk.Double
