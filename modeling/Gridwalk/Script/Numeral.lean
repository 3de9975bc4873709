import Gridwalk.Script.Token

/-!
# Number literals

A number literal is a run of digits, perhaps a fraction, perhaps an exponent. A point belongs to
the literal only if a digit follows it. A letter `e` behind the digits always does, so it has to
be followed by digits, with a sign in front of them or not.

A literal that is nothing but digits is an integer, which has to fit into 64 bits with a sign.
Any other one is the nearest double.
-/

namespace Gridwalk.Script

/-- The exponent of a number literal. -/
structure Exponent where
  marker : Char
  sign : Option Char
  digits : List Char
  deriving DecidableEq, Repr

def Exponent.text (e : Exponent) : List Char := e.marker :: (e.sign.toList ++ e.digits)

/-- The power of ten that an exponent denotes. -/
def Exponent.value (e : Exponent) : Int :=
  if e.sign = some '-' then -(digitsValue e.digits) else digitsValue e.digits

/-- The parts of a number literal. -/
structure Numeral where
  whole : List Char
  fraction : Option (List Char)
  exponent : Option Exponent
  deriving DecidableEq, Repr

namespace Numeral

def fractionText : Option (List Char) → List Char
  | none => []
  | some ds => '.' :: ds

def exponentText : Option Exponent → List Char
  | none => []
  | some e => e.text

/-- The literal as it is written. -/
def text (n : Numeral) : List Char :=
  n.whole ++ fractionText n.fraction ++ exponentText n.exponent

/-- The greatest integer literal. -/
def maxInt : Nat := (1 <<< 63) - 1

/-- The nearest double to a literal. -/
def double (n : Numeral) : Double :=
  let fraction := n.fraction.getD []
  let exponent := (n.exponent.map Exponent.value).getD 0
  .ofDecimal (digitsValue (n.whole ++ fraction)) (exponent - fraction.length)

/-- The token of a literal, if there is one. -/
def token? (n : Numeral) : Option Token :=
  match n.fraction, n.exponent with
  | none, none =>
    let v := digitsValue n.whole
    if v ≤ maxInt then some ⟨.intLit, .int v⟩ else none
  | _, _ => some ⟨.floatLit, .float n.double⟩

end Numeral

/-! ## Reading -/

/-- Reads a fraction, if there is one. -/
def readFraction : List Char → Option (List Char) × List Char
  | '.' :: c :: cs =>
    if c.isDigit then (some ((c :: cs).takeWhile Char.isDigit), (c :: cs).dropWhile Char.isDigit)
    else (none, '.' :: c :: cs)
  | cs => (none, cs)

/-- Reads a sign, if there is one. -/
def readSign : List Char → Option Char × List Char
  | [] => (none, [])
  | c :: cs => if c = '+' ∨ c = '-' then (some c, cs) else (none, c :: cs)

/-- Reads an exponent, if there is one. The error is the text of one without digits. -/
def readExponent : List Char → Except (List Char) (Option Exponent × List Char)
  | [] => .ok (none, [])
  | c :: cs =>
    if c = 'e' ∨ c = 'E' then
      let (sign, rest) := readSign cs
      match rest.takeWhile Char.isDigit with
      | [] => .error (c :: sign.toList)
      | d :: ds => .ok (some ⟨c, sign, d :: ds⟩, rest.dropWhile Char.isDigit)
    else .ok (none, c :: cs)

/-- Reads a number literal from a text that begins with a digit. The error is the text of one
that breaks off. -/
def readNumeral (cs : List Char) : Except (List Char) (Numeral × List Char) :=
  let whole := cs.takeWhile Char.isDigit
  let (fraction, rest) := readFraction (cs.dropWhile Char.isDigit)
  match readExponent rest with
  | .ok (exponent, rest) => .ok (⟨whole, fraction, exponent⟩, rest)
  | .error tail => .error (whole ++ Numeral.fractionText fraction ++ tail)

theorem readFraction_append (cs : List Char) :
    Numeral.fractionText (readFraction cs).1 ++ (readFraction cs).2 = cs := by
  unfold readFraction
  split
  · split
    · simp [Numeral.fractionText, List.takeWhile_append_dropWhile]
    · simp [Numeral.fractionText]
  · simp [Numeral.fractionText]

theorem readSign_append (cs : List Char) :
    (readSign cs).1.toList ++ (readSign cs).2 = cs := by
  unfold readSign
  split
  · rfl
  · split <;> simp

theorem readExponent_append {cs rest : List Char} {e : Option Exponent}
    (h : readExponent cs = .ok (e, rest)) : Numeral.exponentText e ++ rest = cs := by
  unfold readExponent at h
  split at h
  · cases h
    rfl
  · next c cs =>
    split at h
    · have happ := readSign_append cs
      revert h
      split
      next sign r hr =>
      rw [hr] at happ
      split
      · simp
      · next d ds hds =>
        intro h
        simp only [Except.ok.injEq, Prod.mk.injEq] at h
        obtain ⟨rfl, rfl⟩ := h
        simp only [Numeral.exponentText, Exponent.text, ← hds, List.cons_append, List.append_assoc,
          List.takeWhile_append_dropWhile]
        simpa using happ
    · simp only [Except.ok.injEq, Prod.mk.injEq] at h
      obtain ⟨rfl, rfl⟩ := h
      rfl

theorem readNumeral_append {cs rest : List Char} {n : Numeral}
    (h : readNumeral cs = .ok (n, rest)) : n.text ++ rest = cs := by
  unfold readNumeral at h
  revert h
  dsimp only
  split
  · next e r he =>
    intro h
    simp only [Except.ok.injEq, Prod.mk.injEq] at h
    obtain ⟨rfl, rfl⟩ := h
    simp only [Numeral.text, List.append_assoc]
    rw [readExponent_append he, readFraction_append, List.takeWhile_append_dropWhile]
  · simp

end Gridwalk.Script
