import Gridwalk.Json.Basic

/-!
# Words, numbers and strings of a document

Each function takes the text of a document from the beginning of a scalar on and tells what
stands there and where the text goes on.
-/

namespace Gridwalk.Json

/-- What a piece of text gives: a value and the rest of the text, or a place where the text
breaks off, for one who reads and for one who skips. -/
inductive Scan (α : Type) where
  | done (value : α) (rest : List Char)
  | stuck (read skip : Failure)

/-! ## Words -/

/-- Reads the letters of a word that are still due. -/
def scanWord {α : Type} (value : α) : List Char → List Char → Scan α
  | [], cs => .done value cs
  | _ :: _, [] => .stuck .truncated .truncated
  | w :: ws, c :: cs => if w = c then scanWord value ws cs else .stuck .malformed .malformed

/-! ## Numbers -/

/-- The greatest significand of a number, `2 ^ 64 - 1`. -/
def maxSignificand : Nat := (1 <<< 64) - 1

/-- Appends digits to a significand while it stays in bounds; the digits that are left over. -/
def absorb (significand : Nat) : List Char → Nat × List Char
  | [] => (significand, [])
  | c :: cs =>
    let next := significand * 10 + digitValue c
    if next ≤ maxSignificand then absorb next cs else (significand, c :: cs)

/-- Scales a double by `10 ^ e`, in steps of at most `10 ^ 308` so that every power of ten is
finite. No value means that the result would be infinite. -/
def scaleDouble (steps : Nat) (x : Double) (e : Int) : Option Double :=
  if 308 < e then if x.magnitude = 0 then some x else none
  else if 0 ≤ e then
    let y := x.mul (.ofDecimal 1 e)
    if y.isFinite then some y else none
  else if -308 ≤ e then some (x.div (.ofDecimal 1 (-e)))
  else match steps with
    | 0 => some .zero
    | steps + 1 =>
      if x.magnitude = 0 then some x
      else scaleDouble steps (x.div (.ofDecimal 1 308)) (e + 308)

/-- The double of a number in decimal notation: its leading digits as an integer of 64 bits, then
scaled by the power of ten, with a rounding after either step. -/
def floatingValue (whole fraction : List Char) (exponent : Int) : Option Double :=
  let (s, dropped) := absorb 0 whole
  let (s', unread) := absorb s fraction
  let e := exponent + dropped.length - (fraction.length - unread.length : Nat)
  scaleDouble 4 (.ofRatio s' 1) e

/-- The parts of a number. -/
structure Numeral where
  negative : Bool
  whole : List Char
  fraction : Option (List Char)
  exponent : Option (Bool × List Char)

/-- The number that a numeral stands for. One that exceeds every double has none. -/
def Numeral.value (n : Numeral) : Except Failure Number :=
  let signed (x : Option Double) : Except Failure Number :=
    match x with
    | none => .error .malformed
    | some x => .ok (.floating (if n.negative then x.negate else x))
  match n.fraction, n.exponent with
  | none, none =>
    let v := digitsValue n.whole
    if !n.negative && v ≤ maxSignificand then .ok (.natural v)
    else if n.negative && v != 0 && v ≤ 1 <<< 63 then .ok (.negative (-v))
    else signed (floatingValue n.whole [] 0)
  | fraction, exponent =>
    let e : Int := match exponent with
      | none => 0
      | some (minus, ds) => if minus then -(digitsValue ds) else digitsValue ds
    signed (floatingValue n.whole (fraction.getD []) e)

/-- The digits at the head of a text, at least one, and the rest. A text that ends where a digit
is due breaks off there. -/
def scanDigits (cs : List Char) : Scan (List Char) :=
  match cs with
  | [] => .stuck .truncated .malformed
  | c :: _ =>
    if c.isDigit then .done (cs.takeWhile Char.isDigit) (cs.dropWhile Char.isDigit)
    else .stuck .malformed .malformed

/-- Reads the exponent of a number, if there is one. -/
def scanExponent (n : Numeral) (cs : List Char) : Scan (Except Failure Number) :=
  match cs with
  | c :: cs' =>
    if c = 'e' ∨ c = 'E' then
      let (minus, ds) := match cs' with
        | '-' :: r => (true, r)
        | '+' :: r => (false, r)
        | r => (false, r)
      match scanDigits ds with
      | .stuck read skip => .stuck read skip
      | .done digits rest =>
        .done ({ n with exponent := some (minus, digits) } : Numeral).value rest
    else .done n.value cs
  | [] => .done n.value []

/-- Reads what follows the whole part of a number. -/
def scanFraction (n : Numeral) (cs : List Char) : Scan (Except Failure Number) :=
  match cs with
  | '.' :: cs' =>
    match scanDigits cs' with
    | .stuck read skip => .stuck read skip
    | .done digits rest => scanExponent { n with fraction := some digits } rest
  | _ => scanExponent n cs

/-- Reads a number behind its sign. A whole part of several digits does not begin with zero. -/
def scanUnsigned (negative : Bool) (cs : List Char) : Scan (Except Failure Number) :=
  match cs, scanDigits cs with
  | _, .stuck read skip => .stuck read skip
  | '0' :: c :: _, .done digits rest =>
    if c.isDigit then .stuck .malformed .malformed
    else scanFraction ⟨negative, digits, none, none⟩ rest
  | _, .done digits rest => scanFraction ⟨negative, digits, none, none⟩ rest

/-! ## Strings -/

/-- Where the reader of a string is: between characters, behind a backslash, inside the four
hexadecimal digits of a code unit, or behind the first half of a surrogate pair. -/
inductive StringState where
  | plain
  | escape (high : Option Nat)
  | unit (high : Option Nat) (due value : Nat)
  | paired (high : Nat)

/-- The value of a hexadecimal digit. -/
def hexValue? (c : Char) : Option Nat :=
  if c.isDigit then some (c.toNat - '0'.toNat)
  else if 'a' ≤ c ∧ c ≤ 'f' then some (c.toNat - 'a'.toNat + 10)
  else if 'A' ≤ c ∧ c ≤ 'F' then some (c.toNat - 'A'.toNat + 10)
  else none

/-- The character behind a backslash stands for another one. -/
def escaped? : Char → Option Char
  | '"' => some '"'
  | '\\' => some '\\'
  | '/' => some '/'
  | 'b' => some '\x08'
  | 'f' => some '\x0C'
  | 'n' => some '\n'
  | 'r' => some '\r'
  | 't' => some '\t'
  | _ => none

/-- The text has fewer bytes left than four digits take. -/
def shortOfUnit (cs : List Char) : Bool :=
  (String.ofList (cs.take 4)).utf8ByteSize < 4

/-- A code unit takes its place in the text of a string. `text` holds the characters so far, the
last one first, or the failure of the string. -/
def placeUnit (high : Option Nat) (n : Nat) (text : Except Failure (List Char)) :
    StringState × Except Failure (List Char) :=
  match text, high with
  | .error f, _ => (.plain, .error f)
  | .ok t, some h =>
    if 0xDC00 ≤ n ∧ n ≤ 0xDFFF then
      (.plain, .ok (Char.ofNat (0x10000 + (h - 0xD800) * 0x400 + (n - 0xDC00)) :: t))
    else (.plain, .error .malformed)
  | .ok t, none =>
    if 0xD800 ≤ n ∧ n ≤ 0xDBFF then (.paired n, .ok t)
    else if 0xDC00 ≤ n ∧ n ≤ 0xDFFF then (.plain, .error .malformed)
    else (.plain, .ok (Char.ofNat n :: t))

/-- A string breaks off: a failure of the string that was met before comes first. -/
def stuckString (text : Except Failure (List Char)) (f : Failure) : Scan (Except Failure String) :=
  match text with
  | .error f' => .stuck f' f
  | .ok _ => .stuck f f

/-- Reads a string behind its opening quote. -/
def scanString (state : StringState) (text : Except Failure (List Char)) :
    List Char → Scan (Except Failure String)
  | [] => stuckString text .truncated
  | c :: cs =>
    let plain (text : Except Failure (List Char)) : Scan (Except Failure String) :=
      if c = '"' then .done (text.map fun t => String.ofList t.reverse) cs
      else if c = '\\' then scanString (.escape none) text cs
      else if c.toNat < 0x20 then stuckString text .malformed
      else scanString .plain (text.map (c :: ·)) cs
    let escape (text : Except Failure (List Char)) : Scan (Except Failure String) :=
      match escaped? c with
      | some e => scanString .plain (text.map (e :: ·)) cs
      | none => stuckString text .malformed
    match state with
    | .plain => plain text
    | .paired h =>
      if c = '\\' then scanString (.escape (some h)) text cs
      else plain (.error .malformed)
    | .escape high =>
      if c = 'u' then
        if shortOfUnit cs then stuckString text .truncated
        else scanString (.unit high 4 0) text cs
      else match high with
        | none => escape text
        | some _ => escape (.error .malformed)
    | .unit high due value =>
      match hexValue? c with
      | none => stuckString text .malformed
      | some d =>
        let value := value * 16 + d
        if 1 < due then scanString (.unit high (due - 1) value) text cs
        else
          let (state, text) := placeUnit high value text
          scanString state text cs

end Gridwalk.Json
