import Gridwalk.Json.Text
import Gridwalk.Proofs.Json.Literal
import Mathlib

/-!
# The grammar of documents

`Spelled` says which texts spell a value: words, strings and numbers, arrays whose items and objects
whose fields stand between brackets with commas in between, and spaces around all of these.

**Theorem (`Value.WrittenAs.ofText`).** A text that holds a value and nothing else but spaces around
it is read as that value without any fault.

The readers spend fuel, so the induction is on the fuel: with more than twice as much as the text
is long, each reader reads back what is spelled (`Reads`). A number has no end of its own; what
stands behind a value, a space, a comma or a bracket, does not go on with it.
-/

namespace Gridwalk.Json

open Script (Stops stops_cons_iff)

/-! ## Values -/

/-- The text holds spaces only. -/
def Spaces (w : List Char) : Prop := ∀ c ∈ w, isSpace c = true

instance (w : List Char) : Decidable (Spaces w) :=
  decidable_of_iff (w.all isSpace = true) List.all_eq_true

/-- The texts of a list that is not empty, with commas between them and a bracket at the end. -/
inductive Listed {α : Type} (Text : α → List Char → Prop) (close : Char) :
    List α → List Char → Prop
  | last {a : α} {text w : List Char} (head : Text a text) (spaces : Spaces w) :
      Listed Text close [a] (text ++ (w ++ [close]))
  | next {a : α} {as : List α} {text w w' later : List Char} (head : Text a text)
      (before : Spaces w) (after : Spaces w') (tail : Listed Text close as later) :
      Listed Text close (a :: as) (text ++ (w ++ ',' :: (w' ++ later)))

/-- The sign of a number. -/
def signText (negative : Bool) : List Char := if negative then ['-'] else []

mutual

/-- The text spells the value, without spaces around it. -/
inductive Spelled : Value → List Char → Prop
  | null : Spelled .null ['n', 'u', 'l', 'l']
  | yes : Spelled (.bool true) ['t', 'r', 'u', 'e']
  | no : Spelled (.bool false) ['f', 'a', 'l', 's', 'e']
  | string {text value : List Char} (inside : StringText text value) :
      Spelled (.string (String.ofList value)) ('"' :: text)
  | number {n : Numeral} {text : List Char} {x : Number} (parts : NumeralText n text)
      (value : n.value = .ok x) : Spelled (.number x) (signText n.negative ++ text)
  | emptyArray {w : List Char} (spaces : Spaces w) : Spelled (.array []) ('[' :: (w ++ [']']))
  | array {w text : List Char} {vs : List Value} (spaces : Spaces w)
      (items : Listed Spelled ']' vs text) : Spelled (.array vs) ('[' :: (w ++ text))
  | emptyObject {w : List Char} (spaces : Spaces w) : Spelled (.object []) ('{' :: (w ++ ['}']))
  | object {w text : List Char} {fs : List (String × Value)} (spaces : Spaces w)
      (fields : Listed FieldText '}' fs text) : Spelled (.object fs) ('{' :: (w ++ text))

/-- The text spells the name of a field and its value. -/
inductive FieldText : String × Value → List Char → Prop
  | named {name inside w w' text : List Char} {v : Value} (isName : StringText inside name)
      (before : Spaces w) (after : Spaces w') (value : Spelled v text) :
      FieldText (String.ofList name, v) ('"' :: (inside ++ (w ++ ':' :: (w' ++ text))))

end

/-- The text holds this value, perhaps with spaces around it, and nothing else. -/
def Value.WrittenAs (v : Value) (text : String) : Prop :=
  ∃ w t w', text = String.ofList (w ++ (t ++ w')) ∧ Spaces w ∧ Spelled v t ∧ Spaces w'

/-- A string of plain characters stands between its quotes as it is. -/
theorem spelled_of_plain (s : String) (h : s.toList.all isPlain = true) :
    Spelled (.string s) ('"' :: (s.toList ++ ['"'])) := by
  have hspelled := Spelled.string (StringText.close.append s.toList h)
  rwa [List.append_nil, String.ofList_toList] at hspelled

theorem fieldText_of_plain (name : String) (h : name.toList.all isPlain = true)
    {w w' text : List Char} {v : Value} (before : Spaces w) (after : Spaces w')
    (value : Spelled v text) :
    FieldText (name, v) ('"' :: (name.toList ++ ['"'] ++ (w ++ ':' :: (w' ++ text)))) := by
  have hfield := FieldText.named (StringText.close.append name.toList h) before after value
  rwa [List.append_nil, String.ofList_toList] at hfield

/-! ## Spaces -/

theorem skipSpaces_append {w : List Char} (h : Spaces w) (cs : List Char) :
    skipSpaces (w ++ cs) = skipSpaces cs :=
  List.dropWhile_append_of_pos h

theorem skipSpaces_cons {c : Char} (h : isSpace c = false) (cs : List Char) :
    skipSpaces (c :: cs) = c :: cs :=
  List.dropWhile_cons_of_neg (by simp [h])

theorem readValue_spaces {w : List Char} (h : Spaces w) (fuel : Nat) (cs : List Char) :
    readValue fuel (w ++ cs) = readValue fuel cs := by
  cases fuel with
  | zero => rfl
  | succ fuel => rw [readValue, readValue, skipSpaces_append h]

theorem readItems_spaces {w : List Char} (h : Spaces w) (fuel : Nat) (cs : List Char) :
    readItems fuel (w ++ cs) = readItems fuel cs := by
  cases fuel with
  | zero => rfl
  | succ fuel => rw [readItems, readItems, readValue_spaces h]

theorem readFields_spaces {w : List Char} (h : Spaces w) (fuel : Nat) (cs : List Char) :
    readFields fuel (w ++ cs) = readFields fuel cs := by
  cases fuel with
  | zero => rfl
  | succ fuel => rw [readFields, readFields, skipSpaces_append h]

/-! ## Numbers -/

theorem isSpace_of_isDigit {d : Char} (hd : d.isDigit = true) : isSpace d = false := by
  by_contra h
  simp only [isSpace, Bool.not_eq_false, Bool.or_eq_true, beq_iff_eq] at h
  rcases h with ((rfl | rfl) | rfl) | rfl <;> cases hd

theorem readValue_digit {d : Char} (hd : d.isDigit = true) (fuel : Nat) (cs : List Char) :
    readValue (fuel + 1) (d :: cs) = (scanUnsigned false (d :: cs)).bare .number := by
  rw [readValue, skipSpaces_cons (isSpace_of_isDigit hd)]
  split
  case h_9 heq =>
    cases heq
    exact if_pos hd
  all_goals
    next heq => cases heq <;> cases hd

/-- A number is read up to a place where it cannot go on. -/
theorem readValue_number {n : Numeral} {text rest : List Char} {x : Number}
    (h : NumeralText n text) (hx : n.value = .ok x) (hrest : Stops continuesNumber rest)
    (fuel : Nat) :
    readValue (fuel + 1) (signText n.negative ++ text ++ rest) = (.number (.ok x), some rest) := by
  have hscan := scanUnsigned_append h hrest
  rw [hx] at hscan
  cases hnegative : n.negative with
  | true =>
    rw [hnegative] at hscan
    show readValue (fuel + 1) ('-' :: (text ++ rest)) = _
    have hskip : skipSpaces ('-' :: (text ++ rest)) = '-' :: (text ++ rest) := rfl
    simp only [readValue, hskip, hscan, Scan.bare]
  | false =>
    obtain ⟨d, ds, rfl, hd⟩ := h.exists_digit
    rw [hnegative] at hscan
    show readValue (fuel + 1) (d :: (ds ++ rest)) = _
    rw [readValue_digit hd]
    show (scanUnsigned false (d :: ds ++ rest)).bare .number = _
    rw [hscan]
    rfl

/-- A number does not go on over spaces. -/
theorem stops_spaces_append {w cs : List Char} (h : Spaces w) (hcs : Stops continuesNumber cs) :
    Stops continuesNumber (w ++ cs) := by
  cases w with
  | nil => exact hcs
  | cons d w =>
    have hd := h d List.mem_cons_self
    rw [List.cons_append, stops_cons_iff]
    simp only [isSpace, Bool.or_eq_true, beq_iff_eq] at hd
    rcases hd with ((rfl | rfl) | rfl) | rfl <;> rfl

/-! ## Brackets -/

/-- No text of a value begins with a space or a closing bracket. -/
theorem Spelled.exists_cons {v : Value} {text : List Char} (h : Spelled v text) :
    ∃ c cs, text = c :: cs ∧ isSpace c = false ∧ c ≠ ']' := by
  cases h with
  | @number n text x hparts hx =>
    cases hnegative : n.negative with
    | true => exact ⟨'-', text, rfl, rfl, by decide⟩
    | false =>
      obtain ⟨d, ds, rfl, hd⟩ := hparts.exists_digit
      refine ⟨d, ds, rfl, isSpace_of_isDigit hd, ?_⟩
      rintro rfl
      cases hd
  | null | yes | no | string | emptyArray | array | emptyObject | object =>
    exact ⟨_, _, rfl, rfl, by decide⟩

theorem FieldText.exists_cons {f : String × Value} {text : List Char} (h : FieldText f text) :
    ∃ c cs, text = c :: cs ∧ c = '"' := by
  cases h
  exact ⟨_, _, rfl, rfl⟩

theorem Listed.exists_cons {α : Type} {Text : α → List Char → Prop} {close : Char} {as : List α}
    {text : List Char} {p : Char → Prop} (h : Listed Text close as text)
    (hText : ∀ a t, Text a t → ∃ c cs, t = c :: cs ∧ p c) : ∃ c cs, text = c :: cs ∧ p c := by
  cases h with
  | last hhead _ | next hhead _ _ _ =>
    obtain ⟨c, cs, rfl, hc⟩ := hText _ _ hhead
    exact ⟨c, _, rfl, hc⟩

theorem readValue_emptyArray {r rest : List Char} (h : skipSpaces r = ']' :: rest) (fuel : Nat) :
    readValue (fuel + 1) ('[' :: r) = (.array .closed, some rest) := by
  have hskip : skipSpaces ('[' :: r) = '[' :: r := rfl
  simp only [readValue, hskip, h]

theorem readValue_emptyObject {r rest : List Char} (h : skipSpaces r = '}' :: rest) (fuel : Nat) :
    readValue (fuel + 1) ('{' :: r) = (.object .closed, some rest) := by
  have hskip : skipSpaces ('{' :: r) = '{' :: r := rfl
  simp only [readValue, hskip, h]

theorem readValue_array {c : Char} {r cs : List Char} (h : skipSpaces r = c :: cs) (hc : c ≠ ']')
    (fuel : Nat) :
    readValue (fuel + 1) ('[' :: r) =
      (.array (readItems fuel (c :: cs)).1, (readItems fuel (c :: cs)).2) := by
  have hskip : skipSpaces ('[' :: r) = '[' :: r := rfl
  simp only [readValue, hskip, h]
  split
  · next heq => cases heq
  · next heq =>
    cases heq
    exact absurd rfl hc
  · rfl

theorem readValue_object {r cs : List Char} (h : skipSpaces r = '"' :: cs) (fuel : Nat) :
    readValue (fuel + 1) ('{' :: r) =
      (.object (readFields fuel ('"' :: cs)).1, (readFields fuel ('"' :: cs)).2) := by
  have hskip : skipSpaces ('{' :: r) = '{' :: r := rfl
  simp only [readValue, hskip, h]
  rfl

/-! ## Whole values -/

/-- With so much fuel, what the grammar spells is read back. -/
structure Reads (fuel : Nat) : Prop where
  value : ∀ {v text rest}, Spelled v text → 2 * text.length < fuel → Stops continuesNumber rest →
    readValue fuel (text ++ rest) = (v.reading, some rest)
  items : ∀ {vs text}, Listed Spelled ']' vs text → 2 * text.length ≤ fuel → ∀ rest,
    readItems fuel (text ++ rest) = (readings vs, some rest)
  fields : ∀ {fs text}, Listed FieldText '}' fs text → 2 * text.length ≤ fuel → ∀ rest,
    readFields fuel (text ++ rest) = (fieldReadings fs, some rest)

theorem Reads.value_succ {fuel : Nat} (h : Reads fuel) {v : Value} {text rest : List Char}
    (hv : Spelled v text) (hfuel : 2 * text.length < fuel + 1)
    (hrest : Stops continuesNumber rest) :
    readValue (fuel + 1) (text ++ rest) = (v.reading, some rest) := by
  cases hv with
  | null | yes | no => rfl
  | number hparts hx => exact readValue_number hparts hx hrest fuel
  | @string inside value hinside =>
    have hskip : skipSpaces ('"' :: (inside ++ rest)) = '"' :: (inside ++ rest) := rfl
    have hscan := scanString_text_append hinside [] rest
    show readValue (fuel + 1) ('"' :: (inside ++ rest)) = _
    simp only [readValue, hskip, hscan, Scan.string]
    rfl
  | @emptyArray w hw =>
    have hskip : skipSpaces (w ++ [']'] ++ rest) = ']' :: rest := by
      rw [List.append_assoc, skipSpaces_append hw]
      rfl
    exact readValue_emptyArray hskip fuel
  | @emptyObject w hw =>
    have hskip : skipSpaces (w ++ ['}'] ++ rest) = '}' :: rest := by
      rw [List.append_assoc, skipSpaces_append hw]
      rfl
    exact readValue_emptyObject hskip fuel
  | @array w text vs hw hitems =>
    obtain ⟨c, cs, rfl, hc, hne⟩ := hitems.exists_cons fun _ _ => Spelled.exists_cons
    have hskip : skipSpaces (w ++ c :: cs ++ rest) = c :: (cs ++ rest) := by
      rw [List.append_assoc, skipSpaces_append hw, List.cons_append, skipSpaces_cons hc]
    have hread : readItems fuel (c :: (cs ++ rest)) = (readings vs, some rest) := by
      apply h.items hitems
      simp only [List.length_cons, List.length_append] at hfuel ⊢
      omega
    show readValue (fuel + 1) ('[' :: (w ++ c :: cs ++ rest)) = _
    rw [readValue_array hskip hne, hread]
    rfl
  | @object w text fs hw hfields =>
    obtain ⟨c, cs, rfl, rfl⟩ := hfields.exists_cons fun _ _ => FieldText.exists_cons
    have hskip : skipSpaces (w ++ '"' :: cs ++ rest) = '"' :: (cs ++ rest) := by
      rw [List.append_assoc, skipSpaces_append hw]
      rfl
    have hread : readFields fuel ('"' :: (cs ++ rest)) = (fieldReadings fs, some rest) := by
      apply h.fields hfields
      simp only [List.length_cons, List.length_append] at hfuel ⊢
      omega
    show readValue (fuel + 1) ('{' :: (w ++ '"' :: cs ++ rest)) = _
    rw [readValue_object hskip, hread]
    rfl

theorem Reads.items_succ {fuel : Nat} (h : Reads fuel) {vs : List Value} {text : List Char}
    (hvs : Listed Spelled ']' vs text) (hfuel : 2 * text.length ≤ fuel + 1) (rest : List Char) :
    readItems (fuel + 1) (text ++ rest) = (readings vs, some rest) := by
  cases hvs with
  | @last v text w hv hw =>
    have hread : readValue fuel (text ++ (w ++ ']' :: rest)) =
        (v.reading, some (w ++ ']' :: rest)) := by
      apply h.value hv _ (stops_spaces_append hw (stops_cons_iff.2 rfl))
      simp only [List.length_cons, List.length_append] at hfuel
      omega
    have hskip : skipSpaces (w ++ ']' :: rest) = ']' :: rest := skipSpaces_append hw _
    rw [List.append_assoc, List.append_assoc, List.singleton_append]
    simp only [readItems, hread, hskip]
    rfl
  | @next v vs text w w' later hv hw hw' htail =>
    have hread : readValue fuel (text ++ (w ++ ',' :: (w' ++ later ++ rest))) =
        (v.reading, some (w ++ ',' :: (w' ++ later ++ rest))) := by
      apply h.value hv _ (stops_spaces_append hw (stops_cons_iff.2 rfl))
      simp only [List.length_cons, List.length_append] at hfuel
      omega
    have hskip : skipSpaces (w ++ ',' :: (w' ++ later ++ rest)) = ',' :: (w' ++ later ++ rest) :=
      skipSpaces_append hw _
    have hlater : readItems fuel (w' ++ later ++ rest) = (readings vs, some rest) := by
      rw [List.append_assoc, readItems_spaces hw']
      apply h.items htail
      simp only [List.length_cons, List.length_append] at hfuel
      omega
    rw [List.append_assoc, List.append_assoc, List.cons_append]
    simp only [readItems, hread, hskip, hlater]
    rfl

/-- A field is read up to the end of its value. -/
theorem Reads.field {fuel : Nat} (h : Reads fuel) {f : String × Value} {text behind : List Char}
    (hf : FieldText f text) (hfuel : 2 * text.length ≤ fuel + 1)
    (hbehind : Stops continuesNumber behind) :
    ∃ inside after start, text ++ behind = '"' :: inside ∧
      scanString .plain (.ok []) inside = .done (.ok f.1) after ∧
      skipSpaces after = ':' :: start ∧ readValue fuel start = (f.2.reading, some behind) := by
  cases hf with
  | @named name inside w w' text v hname hw hw' hv =>
    refine ⟨inside ++ (w ++ ':' :: (w' ++ (text ++ behind))), _, _, ?_,
      scanString_text_append hname [] _, skipSpaces_append hw _, ?_⟩
    · simp only [List.cons_append, List.append_assoc]
    · rw [readValue_spaces hw']
      apply h.value hv _ hbehind
      simp only [List.length_cons, List.length_append] at hfuel
      omega

theorem Reads.fields_succ {fuel : Nat} (h : Reads fuel) {fs : List (String × Value)}
    {text : List Char} (hfs : Listed FieldText '}' fs text) (hfuel : 2 * text.length ≤ fuel + 1)
    (rest : List Char) :
    readFields (fuel + 1) (text ++ rest) = (fieldReadings fs, some rest) := by
  cases hfs with
  | @last f text w hf hw =>
    rw [List.append_assoc, List.append_assoc, List.singleton_append]
    have hskip : skipSpaces (w ++ '}' :: rest) = '}' :: rest := skipSpaces_append hw _
    have hstops : Stops continuesNumber (w ++ '}' :: rest) :=
      stops_spaces_append hw (stops_cons_iff.2 rfl)
    simp only [List.length_cons, List.length_append] at hfuel
    obtain ⟨inside, after, start, htext, hname, hcolon, hvalue⟩ :=
      h.field hf (by omega) hstops
    have hquote : skipSpaces ('"' :: inside) = '"' :: inside := rfl
    rw [htext]
    simp only [readFields, hquote, hname, hcolon, hvalue, hskip]
    rfl
  | @next f fs text w w' later hf hw hw' htail =>
    rw [List.append_assoc, List.append_assoc, List.cons_append]
    have hskip : skipSpaces (w ++ ',' :: (w' ++ later ++ rest)) = ',' :: (w' ++ later ++ rest) :=
      skipSpaces_append hw _
    have hstops : Stops continuesNumber (w ++ ',' :: (w' ++ later ++ rest)) :=
      stops_spaces_append hw (stops_cons_iff.2 rfl)
    simp only [List.length_cons, List.length_append] at hfuel
    obtain ⟨inside, after, start, htext, hname, hcolon, hvalue⟩ :=
      h.field hf (by omega) hstops
    have hlater : readFields fuel (w' ++ later ++ rest) = (fieldReadings fs, some rest) := by
      rw [List.append_assoc, readFields_spaces hw']
      exact h.fields htail (by omega) rest
    have hquote : skipSpaces ('"' :: inside) = '"' :: inside := rfl
    rw [htext]
    simp only [readFields, hquote, hname, hcolon, hvalue, hskip, hlater]
    rfl

theorem reads (fuel : Nat) : Reads fuel := by
  induction fuel with
  | zero =>
    constructor
    case value =>
      intro v text rest _ hfuel
      exact absurd hfuel (Nat.not_lt_zero _)
    case items =>
      intro vs text hvs hfuel
      obtain ⟨c, cs, rfl, -⟩ := hvs.exists_cons fun _ _ => Spelled.exists_cons
      simp at hfuel
    case fields =>
      intro fs text hfs hfuel
      obtain ⟨c, cs, rfl, -⟩ := hfs.exists_cons fun _ _ => FieldText.exists_cons
      simp at hfuel
  | succ fuel ih => exact ⟨ih.value_succ, ih.items_succ, ih.fields_succ⟩

/-- A text of a value is read as this value. -/
theorem Value.WrittenAs.ofText {v : Value} {text : String} (h : v.WrittenAs text) :
    Document.ofText text = ⟨v.reading, .ok ()⟩ := by
  obtain ⟨w, t, w', rfl, hw, ht, hw'⟩ := h
  have hstops : Stops continuesNumber w' := by
    simpa using stops_spaces_append hw' (Script.stops_nil continuesNumber)
  have hread : readValue (2 * (w ++ (t ++ w')).length + 1) (w ++ (t ++ w')) =
      (v.reading, some w') := by
    rw [readValue_spaces hw]
    apply (reads _).value ht _ hstops
    simp only [List.length_append]
    omega
  have hskip : skipSpaces w' = [] := List.dropWhile_eq_nil_iff.2 hw'
  rw [Document.ofText, String.toList_ofList]
  simp only [hread, hskip, if_true]

end Gridwalk.Json
