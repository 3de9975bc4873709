/-!
# Decimal digits

The value of a string of decimal digits, and the number of digits of a number.
-/

namespace Gridwalk

def digitValue (c : Char) : Nat := c.toNat - '0'.toNat

/-- The number that a string of digits denotes; zeros in front do not matter. -/
def digitsValue (ds : List Char) : Nat := ds.foldl (fun n c => n * 10 + digitValue c) 0

/-- The number of decimal digits of a number. -/
def digitCount (n : Nat) : Nat := (Nat.toDigits 10 n).length

end Gridwalk
