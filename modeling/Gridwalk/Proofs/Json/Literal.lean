import Gridwalk.Json.Scalar
import Gridwalk.Proofs.Script.Numeral
import Mathlib

/-!
# Strings and numbers of documents

The inside of a string is spelled by its characters, by a backslash and a letter, or by code units
in hexadecimal digits; a character beyond the basic plane takes a pair of them. A number has a
whole part that does not begin with zero unless it is zero, and perhaps a fraction and an exponent.

The readers take what is spelled, whatever follows a string (`scanString_text_append`), and
whatever does not go on with a number (`scanUnsigned_append`).
-/

namespace Gridwalk.Json

open Script (Stops Digits stops_cons_iff)

/-! ## Strings -/

/-- Four hexadecimal digits and the code unit that they stand for. -/
inductive UnitText : List Char → Nat → Prop
  | digits {a b c d : Char} {w x y z : Nat} (first : hexValue? a = some w)
      (second : hexValue? b = some x) (third : hexValue? c = some y)
      (fourth : hexValue? d = some z) :
      UnitText [a, b, c, d] (((w * 16 + x) * 16 + y) * 16 + z)

/-- The character may stand in a string as it is. -/
def isPlain (c : Char) : Bool := c != '"' && c != '\\' && 0x20 ≤ c.toNat

/-- The inside of a string together with its closing quote, and the characters of the string. -/
inductive StringText : List Char → List Char → Prop
  | close : StringText ['"'] []
  | plain {c : Char} {text value : List Char} (isPlain : isPlain c = true)
      (body : StringText text value) : StringText (c :: text) (c :: value)
  | escape {e c : Char} {text value : List Char} (escaped : escaped? e = some c)
      (body : StringText text value) : StringText ('\\' :: e :: text) (c :: value)
  | unit {u text value : List Char} {n : Nat} (unit : UnitText u n)
      (whole : n < 0xD800 ∨ 0xDFFF < n) (body : StringText text value) :
      StringText ('\\' :: 'u' :: (u ++ text)) (Char.ofNat n :: value)
  | pair {u u' text value : List Char} {high low : Nat} (first : UnitText u high)
      (second : UnitText u' low) (isHigh : 0xD800 ≤ high ∧ high ≤ 0xDBFF)
      (isLow : 0xDC00 ≤ low ∧ low ≤ 0xDFFF) (body : StringText text value) :
      StringText ('\\' :: 'u' :: (u ++ '\\' :: 'u' :: (u' ++ text)))
        (Char.ofNat (0x10000 + (high - 0xD800) * 0x400 + (low - 0xDC00)) :: value)

/-- Plain characters spell themselves. -/
theorem StringText.append (cs : List Char) {text value : List Char}
    (h : cs.all isPlain = true) (body : StringText text value) :
    StringText (cs ++ text) (cs ++ value) := by
  induction cs with
  | nil => exact body
  | cons c cs ih =>
    rw [List.all_cons, Bool.and_eq_true] at h
    exact .plain h.1 (ih h.2)

theorem length_le_utf8ByteSize (cs : List Char) : cs.length ≤ (String.ofList cs).utf8ByteSize := by
  induction cs with
  | nil => exact Nat.zero_le _
  | cons c cs ih =>
    rw [← List.singleton_append, String.ofList_append, String.utf8ByteSize_append,
      List.length_append]
    have hc : 1 ≤ (String.ofList [c]).utf8ByteSize := by
      show 1 ≤ (String.singleton c).utf8ByteSize
      rw [String.utf8ByteSize_singleton]
      exact c.utf8Size_pos
    exact Nat.add_le_add hc ih

theorem shortOfUnit_append {u : List Char} {n : Nat} (h : UnitText u n) (rest : List Char) :
    shortOfUnit (u ++ rest) = false := by
  have htake : (u ++ rest).take 4 = u := by
    cases h
    rfl
  have hlength : u.length = 4 := by
    cases h
    rfl
  have hle := length_le_utf8ByteSize u
  rw [hlength] at hle
  rw [shortOfUnit, htake]
  exact decide_eq_false (Nat.not_lt.2 hle)

/-- Four digits are read as a code unit. -/
theorem scanString_unit {u : List Char} {n : Nat} (h : UnitText u n) (high : Option Nat)
    (text : Except Failure (List Char)) (rest : List Char) :
    scanString (.escape high) text ('u' :: (u ++ rest)) =
      scanString (placeUnit high n text).1 (placeUnit high n text).2 rest := by
  have hlong := shortOfUnit_append h rest
  cases h with
  | digits ha hb hc hd =>
    simp only [List.cons_append, List.nil_append] at hlong ⊢
    simp [scanString, hlong, ha, hb, hc, hd]

theorem scanString_backslash (text : Except Failure (List Char)) (rest : List Char) :
    scanString .plain text ('\\' :: rest) = scanString (.escape none) text rest := by
  rw [scanString]
  rfl

theorem scanString_paired (high : Nat) (text : Except Failure (List Char)) (rest : List Char) :
    scanString (.paired high) text ('\\' :: rest) = scanString (.escape (some high)) text rest := by
  rw [scanString]
  rfl

/-- A string is read up to its closing quote. -/
theorem scanString_text_append {text value : List Char} (h : StringText text value)
    (read rest : List Char) :
    scanString .plain (.ok read) (text ++ rest) =
      .done (.ok (String.ofList (read.reverse ++ value))) rest := by
  induction h generalizing read with
  | close => simp [scanString, Except.map]
  | @plain c text value hplain _ ih =>
    simp only [isPlain, Bool.and_eq_true, bne_iff_ne, decide_eq_true_eq] at hplain
    obtain ⟨⟨hquote, hbackslash⟩, hprinted⟩ := hplain
    simp [scanString, Except.map, hquote, hbackslash, hprinted, ih]
  | @escape e c text value hescaped _ ih =>
    have hunit : e ≠ 'u' := by
      rintro rfl
      cases hescaped
    simp [scanString, Except.map, hescaped, hunit, ih]
  | @unit u text value n hunit hwhole _ ih =>
    have hplace : placeUnit none n (.ok read) = (.plain, .ok (Char.ofNat n :: read)) := by
      have hhigh : ¬ (0xD800 ≤ n ∧ n ≤ 0xDBFF) := by omega
      have hlow : ¬ (0xDC00 ≤ n ∧ n ≤ 0xDFFF) := by omega
      simp only [placeUnit, if_neg hhigh, if_neg hlow]
    rw [List.cons_append, List.cons_append, List.append_assoc, scanString_backslash,
      scanString_unit hunit, hplace, ih]
    simp
  | @pair u u' text value high low hfirst hsecond hhigh hlow _ ih =>
    have hplace : placeUnit none high (.ok read) = (.paired high, .ok read) := by
      simp only [placeUnit, if_pos hhigh]
    have hplace' : placeUnit (some high) low (.ok read) = (.plain,
        .ok (Char.ofNat (0x10000 + (high - 0xD800) * 0x400 + (low - 0xDC00)) :: read)) := by
      simp only [placeUnit, if_pos hlow]
    rw [List.cons_append, List.cons_append, List.append_assoc, scanString_backslash,
      scanString_unit hfirst, hplace, List.cons_append, List.cons_append, List.append_assoc,
      scanString_paired, scanString_unit hsecond, hplace', ih]
    simp

/-! ## Numbers -/

/-- A character that could go on with a number. -/
def continuesNumber (c : Char) : Bool := c.isDigit || c == '.' || c == 'e' || c == 'E'

/-- The fraction of a number. -/
def fractionText : Option (List Char) → List Char
  | none => []
  | some ds => '.' :: ds

/-- The exponent of a number. The sign of a positive one may be left out. -/
inductive ExponentText : Option (Bool × List Char) → List Char → Prop
  | none : ExponentText none []
  | some {marker : Char} {minus : Bool} {sign ds : List Char}
      (isMarker : marker = 'e' ∨ marker = 'E')
      (signed : sign = ['-'] ∧ minus = true ∨ (sign = ['+'] ∨ sign = []) ∧ minus = false)
      (digits : Digits ds) : ExponentText (some (minus, ds)) (marker :: (sign ++ ds))

/-- The parts of a number, and its text behind the sign. -/
inductive NumeralText : Numeral → List Char → Prop
  | parts {negative : Bool} {whole : List Char} {fraction : Option (List Char)}
      {exponent : Option (Bool × List Char)} {text : List Char} (digits : Digits whole)
      (no_zero : whole = ['0'] ∨ whole.head? ≠ some '0')
      (fractionDigits : ∀ ds ∈ fraction, Digits ds) (exponentText : ExponentText exponent text) :
      NumeralText ⟨negative, whole, fraction, exponent⟩ (whole ++ (fractionText fraction ++ text))

theorem NumeralText.exists_digit {n : Numeral} {text : List Char} (h : NumeralText n text) :
    ∃ d ds, text = d :: ds ∧ d.isDigit = true := by
  cases h with
  | parts hwhole _ _ _ =>
    obtain ⟨d, ds, rfl⟩ := List.exists_cons_of_ne_nil hwhole.ne_nil
    exact ⟨d, _, rfl, hwhole.isDigit d List.mem_cons_self⟩

theorem stops_of_imp {p q : Char → Bool} {cs : List Char} (h : Stops p cs)
    (himp : ∀ c, q c = true → p c = true) : Stops q cs := by
  intro c hc
  by_contra hq
  have hp := himp c (by simpa using hq)
  rw [h c hc] at hp
  cases hp

/-- Where a number cannot go on, neither a fraction nor more digits begin. -/
theorem stops_exponentText_append {e : Option (Bool × List Char)} {text rest : List Char}
    (h : ExponentText e text) (hrest : Stops continuesNumber rest) :
    Stops (fun c => c.isDigit || c == '.') (text ++ rest) := by
  cases h with
  | none => exact stops_of_imp hrest fun c hc => by simp_all [continuesNumber]
  | some hmarker _ _ =>
    rw [List.cons_append, stops_cons_iff]
    rcases hmarker with rfl | rfl <;> rfl

theorem scanDigits_append {ds rest : List Char} (h : Digits ds) (hrest : Stops Char.isDigit rest) :
    scanDigits (ds ++ rest) = .done ds rest := by
  obtain ⟨htake, hdrop⟩ := Script.takeWhile_dropWhile_append h.isDigit hrest
  obtain ⟨d, ds, rfl⟩ := List.exists_cons_of_ne_nil h.ne_nil
  have hd := h.isDigit d List.mem_cons_self
  rw [List.cons_append] at htake hdrop ⊢
  simp only [scanDigits, hd, if_true, htake, hdrop]

section Numerals

variable {negative : Bool} {whole text rest : List Char} {fraction : Option (List Char)}
  {exponent : Option (Bool × List Char)}

theorem scanExponent_append (h : ExponentText exponent text) (hrest : Stops continuesNumber rest) :
    scanExponent ⟨negative, whole, fraction, none⟩ (text ++ rest) =
      .done (⟨negative, whole, fraction, exponent⟩ : Numeral).value rest := by
  have hdigit : Stops Char.isDigit rest :=
    stops_of_imp hrest fun c hc => by simp [continuesNumber, hc]
  cases h with
  | none =>
    cases rest with
    | nil => rfl
    | cons c cs =>
      have hc : ¬ (c = 'e' ∨ c = 'E') := by
        rintro (rfl | rfl) <;> cases stops_cons_iff.1 hrest
      simp [scanExponent, hc]
  | @some marker minus sign ds hmarker hsigned hdigits =>
    have hscan := scanDigits_append hdigits hdigit
    rcases hsigned with ⟨rfl, rfl⟩ | ⟨rfl | rfl, rfl⟩
    · simp [scanExponent, hmarker, hscan]
    · simp [scanExponent, hmarker, hscan]
    · obtain ⟨d, ds, rfl⟩ := List.exists_cons_of_ne_nil hdigits.ne_nil
      have hd := hdigits.isDigit d List.mem_cons_self
      have hminus : d ≠ '-' := by
        rintro rfl
        cases hd
      have hplus : d ≠ '+' := by
        rintro rfl
        cases hd
      rw [List.cons_append] at hscan
      simp [scanExponent, hmarker, hminus, hplus, hscan]

theorem scanFraction_append (hfraction : ∀ ds ∈ fraction, Digits ds)
    (h : ExponentText exponent text) (hrest : Stops continuesNumber rest) :
    scanFraction ⟨negative, whole, none, none⟩ (fractionText fraction ++ (text ++ rest)) =
      .done (⟨negative, whole, fraction, exponent⟩ : Numeral).value rest := by
  have hstops := stops_exponentText_append h hrest
  cases fraction with
  | none =>
    have hscan : scanFraction ⟨negative, whole, none, none⟩ (text ++ rest) =
        scanExponent ⟨negative, whole, none, none⟩ (text ++ rest) := by
      unfold scanFraction
      split
      · next heq =>
        rw [heq] at hstops
        cases stops_cons_iff.1 hstops
      · rfl
    exact hscan.trans (scanExponent_append h hrest)
  | some ds =>
    have hdigit : Stops Char.isDigit (text ++ rest) :=
      stops_of_imp hstops fun c hc => by simp [hc]
    have hscan := scanDigits_append (hfraction ds rfl) hdigit
    show scanFraction _ ('.' :: (ds ++ (text ++ rest))) = _
    simp only [scanFraction, hscan]
    exact scanExponent_append h hrest

end Numerals

/-- A number is read up to a place where it cannot go on. -/
theorem scanUnsigned_append {n : Numeral} {text rest : List Char} (h : NumeralText n text)
    (hrest : Stops continuesNumber rest) :
    scanUnsigned n.negative (text ++ rest) = .done n.value rest := by
  cases h with
  | @parts negative whole fraction exponent text hwhole hzero hfraction hexponent =>
    rw [List.append_assoc, List.append_assoc]
    have hread : scanFraction ⟨negative, whole, none, none⟩
        (fractionText fraction ++ (text ++ rest)) = .done (Numeral.value _) rest :=
      scanFraction_append hfraction hexponent hrest
    have hstops : Stops Char.isDigit (fractionText fraction ++ (text ++ rest)) := by
      cases fraction with
      | none =>
        show Stops Char.isDigit (text ++ rest)
        exact stops_of_imp (stops_exponentText_append hexponent hrest) fun c hc => by simp [hc]
      | some ds => exact stops_cons_iff.2 rfl
    have hscan := scanDigits_append hwhole hstops
    generalize fractionText fraction ++ (text ++ rest) = behind at hread hstops hscan ⊢
    -- A whole part that begins with zero is no longer than that.
    have hshort : ∀ c cs, whole ++ behind = '0' :: c :: cs → c.isDigit = false := by
      intro c cs heq
      rcases hzero with rfl | hzero
      · obtain ⟨-, rfl⟩ := List.cons_eq_cons.1 heq
        exact stops_cons_iff.1 hstops
      · obtain ⟨d, ds, rfl⟩ := List.exists_cons_of_ne_nil hwhole.ne_nil
        obtain ⟨rfl, -⟩ := List.cons_eq_cons.1 heq
        exact absurd rfl hzero
    unfold scanUnsigned
    rw [hscan]
    split
    · next hdone => cases hdone
    · next heq hdone =>
      cases hdone
      rw [hshort _ _ heq]
      exact hread
    · next hdone _ =>
      cases hdone
      exact hread

end Gridwalk.Json
