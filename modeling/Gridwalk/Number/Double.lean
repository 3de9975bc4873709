import Gridwalk.Number.Digits

/-!
# Doubles

A double is given by its 64 bits: a sign, eleven bits of exponent and 52 of fraction. All
arithmetic here is exact arithmetic of natural numbers followed by one rounding to the nearest
double, a tie going to the even fraction.

**Value.** A finite double stands for `significand · 2 ^ (power - 1074)`, with a sign.

**Rounding.** `Double.ofRatio n d` is the double nearest to `n / d`, and `Double.ofDecimal m e`
the one nearest to `m · 10 ^ e`. A ratio too large for every finite double gives infinity.
-/

namespace Gridwalk

/-- A binary floating-point number of 64 bits. -/
structure Double where
  bits : UInt64
  deriving DecidableEq, Repr

namespace Double

/-- The weight of the lowest bit of the exponent field, `2 ^ 52`. -/
def hiddenBit : Nat := 1 <<< 52

/-- The bits without the sign. -/
def magnitude (x : Double) : Nat := x.bits.toNat % (1 <<< 63)

def isNegative (x : Double) : Bool := 1 <<< 63 ≤ x.bits.toNat

/-- The exponent field. -/
def biased (x : Double) : Nat := x.magnitude / hiddenBit

def fraction (x : Double) : Nat := x.magnitude % hiddenBit

def isFinite (x : Double) : Bool := x.biased < 2047

def isNaN (x : Double) : Bool := x.biased == 2047 && x.fraction != 0

/-- Of a finite double, the integer that its fraction stands for. -/
def significand (x : Double) : Nat :=
  if x.biased = 0 then x.fraction else hiddenBit + x.fraction

/-- Of a finite double, the power of two that `2 ^ (-1074)` is multiplied by. -/
def power (x : Double) : Nat := x.biased - 1

/-- A finite double without its sign, as a quotient. -/
def ratio (x : Double) : Nat × Nat :=
  if 1074 ≤ x.power then (x.significand <<< (x.power - 1074), 1)
  else (x.significand, 1 <<< (1074 - x.power))

def infinity : Double := ⟨0x7FF0000000000000⟩

def zero : Double := ⟨0⟩

def negate (x : Double) : Double := ⟨x.bits ^^^ 0x8000000000000000⟩

/-- The quotient rounded to the nearest integer, a tie going to the even one. -/
def roundDiv (n d : Nat) : Nat :=
  let q := n / d
  let r := n % d
  if 2 * r < d then q
  else if d < 2 * r then q + 1
  else q + q % 2

/-- The quotient `n / d` in units of `2 ^ (p - 1074)`, again as a quotient. -/
def inUnits (n d p : Nat) : Nat × Nat :=
  if 1074 ≤ p then (n, d <<< (p - 1074)) else (n <<< (1074 - p), d)

/-- The least power whose units make the quotient smaller than `2 ^ 53`. -/
def unitPower (n d : Nat) : Nat :=
  if n = 0 then 0
  else
    let guess := n.log2 + 1074 - d.log2 - 53
    let (n', d') := inUnits n d guess
    if n' / d' < 1 <<< 53 then guess else guess + 1

/-- The double nearest to a quotient of natural numbers, the divisor not being zero. -/
def ofRatio (n d : Nat) : Double :=
  let p := unitPower n d
  let (n', d') := inUnits n d p
  let magnitude := p * hiddenBit + roundDiv n' d'
  if magnitude < infinity.bits.toNat then ⟨UInt64.ofNat magnitude⟩ else infinity

/-- The double nearest to `m · 10 ^ e`. Beyond the powers that are told apart from infinity or
from zero, no power of ten is computed. -/
def ofDecimal (m : Nat) (e : Int) : Double :=
  if m = 0 then zero
  else
    let size := digitCount m + e
    if 310 < size then infinity
    else if size < -330 then zero
    else if 0 ≤ e then ofRatio (m * Nat.pow 10 e.toNat) 1
    else ofRatio m (Nat.pow 10 (-e).toNat)

/-- The product of two finite doubles without their signs. -/
def mul (x y : Double) : Double :=
  let (a, b) := x.ratio
  let (c, d) := y.ratio
  ofRatio (a * c) (b * d)

/-- The quotient of two finite doubles without their signs, the divisor not being zero. -/
def div (x y : Double) : Double :=
  let (a, b) := x.ratio
  let (c, d) := y.ratio
  ofRatio (a * d) (b * c)

end Double

end Gridwalk
