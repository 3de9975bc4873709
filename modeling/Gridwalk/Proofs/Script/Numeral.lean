import Gridwalk.Script.Numeral
import Mathlib

/-!
# The grammar of numbers

A number is made of digits, a fraction or none, and an exponent or none (`Numeral.WellFormed`). It
has to be as long as possible: what stands behind it must not continue it (`Numeral.EndsBefore`).

**Theorem (`readNumeral_eq_ok_iff`).** From a text that begins with a digit, the reader takes a
number exactly if the text is that number followed by something that does not continue it.

Each part of a number is read by its own function, and each of these has a law of the same form:
the reader takes a part exactly if the part is well formed and what follows does not continue it.
-/

namespace Gridwalk.Script

/-! ## Runs -/

/-- The text does not begin with a character of the class `p`. -/
def Stops (p : Char → Bool) (cs : List Char) : Prop := ∀ c ∈ cs.head?, p c = false

theorem stops_nil (p : Char → Bool) : Stops p [] := by
  intro c hc
  cases hc

@[simp] theorem stops_cons_iff {p : Char → Bool} {c : Char} {cs : List Char} :
    Stops p (c :: cs) ↔ p c = false := by
  simp [Stops]

theorem stops_dropWhile (p : Char → Bool) (cs : List Char) : Stops p (cs.dropWhile p) := by
  intro c hc
  have hhead := List.head?_dropWhile_not p cs
  rw [Option.mem_def.1 hc] at hhead
  simpa using hhead

/-- A text is cut behind a run of a class if the rest does not continue the run. -/
theorem takeWhile_dropWhile_append {p : Char → Bool} {run rest : List Char}
    (hrun : ∀ c ∈ run, p c = true) (hrest : Stops p rest) :
    (run ++ rest).takeWhile p = run ∧ (run ++ rest).dropWhile p = rest := by
  rw [List.takeWhile_append_of_pos hrun, List.dropWhile_append_of_pos hrun]
  cases rest with
  | nil => simp
  | cons c cs => simp [stops_cons_iff.1 hrest]

/-- The text is a run of digits. -/
structure Digits (ds : List Char) : Prop where
  ne_nil : ds ≠ []
  isDigit : ∀ c ∈ ds, c.isDigit = true

/-! ## Numbers -/

structure Exponent.WellFormed (e : Exponent) : Prop where
  marker : e.marker = 'e' ∨ e.marker = 'E'
  sign : ∀ c ∈ e.sign, c = '+' ∨ c = '-'
  digits : Digits e.digits

structure Numeral.WellFormed (n : Numeral) : Prop where
  whole : Digits n.whole
  fraction : ∀ ds ∈ n.fraction, Digits ds
  exponent : ∀ e ∈ n.exponent, e.WellFormed

theorem Numeral.WellFormed.exists_digit {n : Numeral} (h : n.WellFormed) :
    ∃ d cs, n.text = d :: cs ∧ d.isDigit = true := by
  obtain ⟨d, ds, hwhole⟩ := List.exists_cons_of_ne_nil h.whole.ne_nil
  have hd : d.isDigit = true := h.whole.isDigit d (hwhole ▸ List.mem_cons_self)
  have htext : n.text = d :: (ds ++ fractionText n.fraction ++ exponentText n.exponent) := by
    rw [text, hwhole]
    rfl
  exact ⟨d, _, htext, hd⟩

/-- The text does not continue the number that stands in front of it. -/
structure Numeral.EndsBefore (n : Numeral) (rest : List Char) : Prop where
  digit : Stops Char.isDigit rest
  point : n.fraction = none → n.exponent = none →
    ∀ c cs, rest = '.' :: c :: cs → c.isDigit = false
  marker : n.exponent = none → Stops (fun c => c = 'e' ∨ c = 'E') rest

/-- The number has neither a fraction nor an exponent. -/
def Numeral.IsBare (n : Numeral) : Prop := n.fraction = none ∧ n.exponent = none

/-- The token that a number stands for. -/
inductive Numeral.Denotes (n : Numeral) : Token → Prop
  | int (bare : n.IsBare) (le_maxInt : digitsValue n.whole ≤ maxInt) :
      Denotes n ⟨.intLit, .int (digitsValue n.whole)⟩
  | float (not_bare : ¬ n.IsBare) : Denotes n ⟨.floatLit, .float n.double⟩

theorem Numeral.token?_eq_some_iff {n : Numeral} {t : Token} :
    n.token? = some t ↔ n.Denotes t := by
  obtain ⟨whole, fraction, exponent⟩ := n
  constructor
  · intro h
    unfold token? at h
    split at h
    · next hfraction hexponent =>
      dsimp only at h
      split at h
      · next hle =>
        cases h
        exact .int ⟨hfraction, hexponent⟩ hle
      · cases h
    · next hbare =>
      cases h
      exact .float fun h => hbare h.1 h.2
  · intro h
    cases h with
    | int bare hle =>
      obtain ⟨hfraction, hexponent⟩ := bare
      cases hfraction
      cases hexponent
      exact if_pos hle
    | float hbare =>
      unfold token?
      split
      · next hfraction hexponent => exact absurd ⟨hfraction, hexponent⟩ hbare
      · rfl

/-! ## Reading the parts -/

theorem readFraction_eq_iff {cs rest : List Char} {f : Option (List Char)} :
    readFraction cs = (f, rest) ↔
      Numeral.fractionText f ++ rest = cs ∧ (∀ ds ∈ f, Digits ds ∧ Stops Char.isDigit rest) ∧
        (f = none → ∀ c t, rest = '.' :: c :: t → c.isDigit = false) := by
  constructor
  · intro h
    have happend := readFraction_append cs
    rw [h] at happend
    refine ⟨happend, ?_⟩
    unfold readFraction at h
    split at h
    · next c cs =>
      split at h
      · next hc =>
        obtain ⟨rfl, rfl⟩ := Prod.mk.inj h
        refine ⟨fun ds hds => ?_, by simp⟩
        cases hds
        exact ⟨⟨by simp [hc], fun _ => List.mem_takeWhile_imp⟩, stops_dropWhile _ _⟩
      · next hc =>
        obtain ⟨rfl, rfl⟩ := Prod.mk.inj h
        simpa using hc
    · next hshape =>
      obtain ⟨rfl, rfl⟩ := Prod.mk.inj h
      exact ⟨by simp, fun _ c t heq => absurd heq (hshape c t)⟩
  · rintro ⟨rfl, hsome, hnone⟩
    cases f with
    | none =>
      show readFraction rest = _
      unfold readFraction
      split
      · next c cs => simp [hnone rfl c cs rfl]
      · rfl
    | some ds =>
      obtain ⟨hds, hstops⟩ := hsome ds rfl
      obtain ⟨htake, hdrop⟩ := takeWhile_dropWhile_append hds.isDigit hstops
      obtain ⟨d, ds, rfl⟩ := List.exists_cons_of_ne_nil hds.ne_nil
      have hd := hds.isDigit d List.mem_cons_self
      show readFraction ('.' :: d :: (ds ++ rest)) = _
      simp only [readFraction, hd, if_true]
      exact Prod.ext (congrArg some htake) hdrop

theorem readSign_eq_iff {cs rest : List Char} {s : Option Char} :
    readSign cs = (s, rest) ↔
      s.toList ++ rest = cs ∧ (∀ c ∈ s, c = '+' ∨ c = '-') ∧
        (s = none → Stops (fun c => c = '+' ∨ c = '-') rest) := by
  constructor
  · intro h
    have happend := readSign_append cs
    rw [h] at happend
    refine ⟨happend, ?_⟩
    unfold readSign at h
    split at h
    · obtain ⟨rfl, rfl⟩ := Prod.mk.inj h
      simp [stops_nil]
    · split at h
      · next hc =>
        obtain ⟨rfl, rfl⟩ := Prod.mk.inj h
        simpa using hc
      · next hc =>
        obtain ⟨rfl, rfl⟩ := Prod.mk.inj h
        simpa using hc
  · rintro ⟨rfl, hsome, hnone⟩
    cases s with
    | none =>
      show readSign rest = _
      cases rest with
      | nil => rfl
      | cons c cs =>
        have hc : ¬ (c = '+' ∨ c = '-') := by simpa using hnone rfl
        simp [readSign, hc]
    | some c =>
      have hc := hsome c rfl
      simp [readSign, hc]

theorem readExponent_eq_ok_iff {cs rest : List Char} {e : Option Exponent} :
    readExponent cs = .ok (e, rest) ↔
      Numeral.exponentText e ++ rest = cs ∧
        (∀ x ∈ e, x.WellFormed ∧ Stops Char.isDigit rest) ∧
        (e = none → Stops (fun c => c = 'e' ∨ c = 'E') rest) := by
  constructor
  · intro h
    refine ⟨readExponent_append h, ?_⟩
    unfold readExponent at h
    split at h
    · cases h
      simp [stops_nil]
    · next c cs =>
      split at h
      · next hmarker =>
        obtain ⟨-, hsign, -⟩ := readSign_eq_iff.1 (Prod.mk.eta (p := readSign cs)).symm
        dsimp only at h
        split at h
        · cases h
        · next d ds htake =>
          cases h
          refine ⟨fun x hx => ?_, by simp⟩
          cases hx
          have hdigits : ∀ c ∈ d :: ds, c.isDigit = true := by
            rw [← htake]
            exact fun _ => List.mem_takeWhile_imp
          exact ⟨⟨hmarker, hsign, by simp, hdigits⟩, stops_dropWhile _ _⟩
      · next hmarker =>
        cases h
        simpa using hmarker
  · rintro ⟨rfl, hsome, hnone⟩
    cases e with
    | none =>
      show readExponent rest = _
      cases rest with
      | nil => rfl
      | cons c cs =>
        have hc : ¬ (c = 'e' ∨ c = 'E') := by simpa using hnone rfl
        simp [readExponent, hc]
    | some e =>
      obtain ⟨marker, sign, digits⟩ := e
      obtain ⟨⟨hmarker, hsign, hdigits⟩, hstops⟩ := hsome _ rfl
      obtain ⟨d, ds, rfl⟩ := List.exists_cons_of_ne_nil hdigits.ne_nil
      have hd : d.isDigit = true := hdigits.isDigit d List.mem_cons_self
      have hread : readSign (sign.toList ++ (d :: ds ++ rest)) = (sign, d :: ds ++ rest) := by
        refine readSign_eq_iff.2 ⟨rfl, hsign, fun _ => stops_cons_iff.2 ?_⟩
        rw [decide_eq_false_iff_not]
        rintro (rfl | rfl) <;> cases hd
      obtain ⟨htake, hdrop⟩ := takeWhile_dropWhile_append hdigits.isDigit hstops
      have htext : Numeral.exponentText (some ⟨marker, sign, d :: ds⟩) ++ rest =
          marker :: (sign.toList ++ (d :: ds ++ rest)) := by
        simp [Numeral.exponentText, Exponent.text]
      rw [htext, readExponent, if_pos hmarker, hread]
      dsimp only
      rw [htake, hdrop]

/-! ## Reading numbers -/

theorem stops_fractionText_append (f : Option (List Char)) {rest : List Char}
    (h : Stops Char.isDigit rest) : Stops Char.isDigit (Numeral.fractionText f ++ rest) := by
  cases f with
  | none => exact h
  | some ds => exact stops_cons_iff.2 rfl

theorem stops_exponentText_append {e : Option Exponent} (he : ∀ x ∈ e, x.WellFormed)
    {rest : List Char} (h : Stops Char.isDigit rest) :
    Stops Char.isDigit (Numeral.exponentText e ++ rest) := by
  cases e with
  | none => exact h
  | some x =>
    refine stops_cons_iff.2 ?_
    rcases (he x rfl).marker with hx | hx <;> rw [hx] <;> rfl

/-- A number that is read is well formed, and nothing continues it. -/
theorem readNumeral_sound {c : Char} {cs rest : List Char} {n : Numeral}
    (hc : c.isDigit = true) (h : readNumeral (c :: cs) = .ok (n, rest)) :
    n.WellFormed ∧ n.EndsBefore rest := by
  unfold readNumeral at h
  obtain ⟨f, r, hf⟩ : ∃ f r, readFraction ((c :: cs).dropWhile Char.isDigit) = (f, r) :=
    ⟨_, _, rfl⟩
  dsimp only at h
  rw [hf] at h
  split at h
  case h_2 => cases h
  next e rest' he =>
  cases h
  obtain ⟨hr, hfsome, hfnone⟩ := readFraction_eq_iff.1 hf
  obtain ⟨hrest, hesome, henone⟩ := readExponent_eq_ok_iff.1 he
  constructor
  · have hwhole : Digits ((c :: cs).takeWhile Char.isDigit) :=
      ⟨by simp [hc], fun _ => List.mem_takeWhile_imp⟩
    exact ⟨hwhole, fun ds hds => (hfsome ds hds).1, fun x hx => (hesome x hx).1⟩
  refine ⟨?_, ?_, henone⟩
  -- What follows the number follows its last part, and that part was read as far as it goes.
  · cases e with
    | some x => exact (hesome x rfl).2
    | none =>
      rw [show rest = r from hrest]
      cases f with
      | some ds => exact (hfsome ds rfl).2
      | none =>
        rw [show r = _ from hr]
        exact stops_dropWhile _ _
  · intro hfraction hexponent
    cases hexponent
    rw [show rest = r from hrest]
    exact hfnone hfraction

/-- A well-formed number is read up to where nothing continues it. -/
theorem readNumeral_text_append {n : Numeral} {rest : List Char} (hn : n.WellFormed)
    (hends : n.EndsBefore rest) : readNumeral (n.text ++ rest) = .ok (n, rest) := by
  obtain ⟨whole, f, e⟩ := n
  have hexponent : readExponent (Numeral.exponentText e ++ rest) = .ok (e, rest) :=
    readExponent_eq_ok_iff.2 ⟨rfl, fun x hx => ⟨hn.exponent x hx, hends.digit⟩, hends.marker⟩
  have hstops := stops_exponentText_append hn.exponent hends.digit
  have hfraction : readFraction (Numeral.fractionText f ++ (Numeral.exponentText e ++ rest)) =
      (f, Numeral.exponentText e ++ rest) := by
    refine readFraction_eq_iff.2 ⟨rfl, fun ds hds => ⟨hn.fraction ds hds, hstops⟩, ?_⟩
    intro hnone c t heq
    cases e with
    | none => exact hends.point hnone rfl c t heq
    | some x =>
      have hmarker : x.marker = '.' := (List.cons.inj heq).1
      rcases (hn.exponent x rfl).marker with hx | hx <;> rw [hx] at hmarker <;> cases hmarker
  have hwhole := takeWhile_dropWhile_append hn.whole.isDigit (stops_fractionText_append f hstops)
  rw [readNumeral, Numeral.text, List.append_assoc, List.append_assoc]
  dsimp only
  rw [hwhole.1, hwhole.2, hfraction]
  dsimp only
  rw [hexponent]

theorem readNumeral_eq_ok_iff {c : Char} {cs rest : List Char} {n : Numeral}
    (hc : c.isDigit = true) :
    readNumeral (c :: cs) = .ok (n, rest) ↔
      n.text ++ rest = c :: cs ∧ n.WellFormed ∧ n.EndsBefore rest := by
  constructor
  · intro h
    exact ⟨readNumeral_append h, readNumeral_sound hc h⟩
  · rintro ⟨htext, hn, hends⟩
    rw [← htext]
    exact readNumeral_text_append hn hends

end Gridwalk.Script
