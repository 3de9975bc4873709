import Gridwalk.Proofs.Script.Lexeme
import Mathlib

/-!
# Faults

`Faulty` says which texts begin with no lexeme, and what is wrong with them.

- An *unknown token* begins with a character that begins nothing: no word, no number, no string,
  no operator and no punctuation. `!` is one unless `=` follows.
- A *malformed number* breaks off behind the letter or the sign of its exponent, or it is a run of
  digits that nothing continues and whose value is too great (`Malformed`).
- An *unterminated string* has no quote that closes it. A quote closes it if an even number of
  backslashes stands in front of the quote (`Closed`).

**Theorem (`readLexeme_eq_error_iff`).** The reader finds a fault exactly if the text is faulty in
this way. So no text has two faults (`Faulty.unique`).

The reader of strings takes backslashes in pairs and never counts them. That a pair in front does
not change which quotes are escaped (`unescaped_pair`) makes both rules agree.
-/

namespace Gridwalk.Script

/-! ## Closed strings -/

/-- A quote behind this part of a string is not escaped: the number of backslashes right in front
of it is even. -/
def Unescaped (inside : List Char) : Prop := Even (inside.rtakeWhile (· == '\\')).length

/-- Some quote in the text closes the string that it is the inside of. -/
def Closed (quote : Char) (cs : List Char) : Prop :=
  ∃ inside rest, cs = inside ++ quote :: rest ∧ Unescaped inside

theorem unescaped_nil : Unescaped [] := by simp [Unescaped]

/-- Only backslashes right in front of the quote count. -/
theorem unescaped_append_cons {c : Char} (hc : c ≠ '\\') (before behind : List Char) :
    Unescaped (before ++ c :: behind) ↔ Unescaped behind := by
  have hrun : (before ++ c :: behind).rtakeWhile (· == '\\') =
      behind.rtakeWhile (· == '\\') := by
    induction behind using List.reverseRecOn with
    | nil => rw [List.rtakeWhile_concat_neg _ _ _ (by simpa using hc), List.rtakeWhile_nil]
    | append_singleton behind d ih =>
      rw [← List.cons_append, ← List.append_assoc, List.rtakeWhile_concat, ih,
        List.rtakeWhile_concat]
  rw [Unescaped, Unescaped, hrun]

/-- Two more backslashes make no difference. -/
theorem unescaped_pair (inside : List Char) :
    Unescaped ('\\' :: '\\' :: inside) ↔ Unescaped inside := by
  induction inside using List.reverseRecOn with
  | nil => simp [Unescaped, List.rtakeWhile]
  | append_singleton inside d ih =>
    unfold Unescaped at ih ⊢
    rw [← List.cons_append, ← List.cons_append, List.rtakeWhile_concat, List.rtakeWhile_concat]
    split
    · rw [List.length_append, List.length_append, List.length_singleton, Nat.even_add_one,
        Nat.even_add_one, ih]
    · rfl

/-- Some quote in the text closes the string, where `before` is the inside up to the text. -/
def ClosedBehind (quote : Char) (before cs : List Char) : Prop :=
  ∃ inside rest, cs = inside ++ quote :: rest ∧ Unescaped (before ++ inside)

theorem closedBehind_cons_iff {quote c : Char} {before cs : List Char} :
    ClosedBehind quote before (c :: cs) ↔
      c = quote ∧ Unescaped before ∨ ClosedBehind quote (before ++ [c]) cs := by
  constructor
  · rintro ⟨inside, rest, heq, heven⟩
    cases inside with
    | nil =>
      rw [List.append_nil] at heven
      exact .inl ⟨(List.cons.inj heq).1, heven⟩
    | cons d inside =>
      obtain ⟨rfl, rfl⟩ := List.cons.inj heq
      exact .inr ⟨inside, rest, rfl, by rwa [List.append_cons] at heven⟩
  · rintro (⟨rfl, heven⟩ | ⟨inside, rest, rfl, heven⟩)
    · exact ⟨[], cs, rfl, by rwa [List.append_nil]⟩
    · exact ⟨c :: inside, rest, rfl, by rwa [List.append_cons]⟩

/-- An ordinary character in front makes no difference. -/
theorem closedBehind_append_singleton {quote c : Char} (hc : c ≠ '\\') (before cs : List Char) :
    ClosedBehind quote (before ++ [c]) cs ↔ Closed quote cs := by
  simp only [ClosedBehind, Closed, List.append_assoc, List.singleton_append,
    unescaped_append_cons hc]

/-- Neither does a pair of backslashes. -/
theorem closedBehind_pair (quote : Char) (cs : List Char) :
    ClosedBehind quote ['\\', '\\'] cs ↔ Closed quote cs := by
  simp only [ClosedBehind, Closed, List.cons_append, List.nil_append, unescaped_pair]

theorem closed_cons_of_ne {quote c : Char} (hquote : c ≠ quote) (cs : List Char) :
    Closed quote (c :: cs) ↔ ClosedBehind quote [c] cs := by
  show ClosedBehind quote [] (c :: cs) ↔ _
  rw [closedBehind_cons_iff]
  simp [hquote]

/-- A string is read exactly if some quote closes it. -/
theorem readStringBody_isSome_iff {quote : Char} (hquote : quote ≠ '\\') (cs : List Char) :
    (readStringBody quote cs).isSome = true ↔ Closed quote cs := by
  have hone : ¬ Unescaped ['\\'] := by simp [Unescaped, List.rtakeWhile]
  fun_induction readStringBody quote cs with
  | case1 => simp [Closed]
  | case2 => simpa using ⟨[], [], rfl, unescaped_nil⟩
  | case3 c hc =>
    rw [closed_cons_of_ne hc]
    simp [ClosedBehind]
  | case4 c d cs hescape ih =>
    obtain ⟨rfl, hd⟩ := hescape
    rw [Option.isSome_map, closed_cons_of_ne hquote.symm, closedBehind_cons_iff]
    refine ih.trans ?_
    simp only [hone, and_false, false_or]
    by_cases hbackslash : d = '\\'
    · rw [hbackslash]
      exact (closedBehind_pair quote cs).symm
    · exact (closedBehind_append_singleton hbackslash ['\\'] cs).symm
  | case5 d cs => simpa using ⟨[], d :: cs, rfl, unescaped_nil⟩
  | case6 c d cs hescape hc ih =>
    rw [Option.isSome_map, closed_cons_of_ne hc]
    refine ih.trans ?_
    by_cases hbackslash : c = '\\'
    · -- The backslash escapes nothing, since an ordinary character comes behind it.
      subst hbackslash
      have hd : ¬ (d = quote ∨ d = '\\') := fun hd => hescape ⟨rfl, hd⟩
      rw [not_or] at hd
      rw [closed_cons_of_ne hd.1, closedBehind_cons_iff]
      simp only [hone, and_false, false_or]
      rw [closedBehind_append_singleton hd.2]
      exact closedBehind_append_singleton hd.2 [] cs
    · exact (closedBehind_append_singleton hbackslash [] (d :: cs)).symm

theorem readStringBody_eq_none_iff {quote : Char} (hquote : quote ≠ '\\') {cs : List Char} :
    readStringBody quote cs = none ↔ ¬ Closed quote cs := by
  rw [← Option.not_isSome_iff_eq_none, readStringBody_isSome_iff hquote]

/-! ## Characters that begin nothing -/

/-- The characters that are operators or punctuation. -/
def signs : List Char := ['{', '}', '=', '(', ')', ';', ',', '+', '-', '*', '/', '%', '<', '>']

theorem mem_signs_of_punctuation {c : Char} {kind : TokenKind} (h : punctuation? c = some kind) :
    c ∈ signs := by
  unfold punctuation? at h
  split at h
  case h_8 => cases h
  all_goals decide

/-- No operator and no punctuation begins with the character, unless it is a sign or the `!` of
`!=`. -/
theorem no_sign_iff {c : Char} {cs : List Char} :
    operators.find? (·.isPrefixOf (c :: cs)) = none ∧ punctuation? c = none ↔
      c ∉ signs ∧ ¬ ['!', '='] <+: c :: cs := by
  have hsigns : ∀ c ∈ signs, [c] ∈ operators ∨ (punctuation? c).isSome = true := by
    simp [signs, operators, punctuation?]
  have hheads : ∀ op ∈ operators, op = ['!', '='] ∨ ∃ d ∈ op.head?, d ∈ signs := by
    simp [signs, operators]
  constructor
  · rintro ⟨hfind, hpunctuation⟩
    have hnone : ∀ op ∈ operators, ¬ op <+: c :: cs := fun op hop hhead =>
      List.find?_eq_none.1 hfind op hop (List.isPrefixOf_iff_prefix.2 hhead)
    refine ⟨fun hc => ?_, hnone _ (by decide)⟩
    rcases hsigns c hc with hop | hkind
    · exact hnone _ hop ⟨cs, rfl⟩
    · rw [hpunctuation] at hkind
      cases hkind
  · rintro ⟨hc, hbang⟩
    constructor
    · rw [List.find?_eq_none]
      intro op hop hfits
      have hhead := List.isPrefixOf_iff_prefix.1 hfits
      obtain rfl | ⟨d, hd, hmem⟩ := hheads op hop
      · exact hbang hhead
      · obtain ⟨ds, rfl⟩ := List.head?_eq_some_iff.1 hd
        obtain ⟨rfl, -⟩ := List.cons_prefix_cons.1 hhead
        exact hc hmem
    · cases hkind : punctuation? c with
      | none => rfl
      | some kind => exact absurd (mem_signs_of_punctuation hkind) hc

/-! ## Malformed numbers -/

/-- No digits follow the letter of an exponent and its sign, if it has one. -/
structure BreaksOff (marker : Char) (sign : Option Char) (rest : List Char) : Prop where
  is_marker : marker = 'e' ∨ marker = 'E'
  is_sign : ∀ c ∈ sign, c = '+' ∨ c = '-'
  unsigned : sign = none → Stops (fun c => c = '+' ∨ c = '-') rest
  no_digit : Stops Char.isDigit rest

/-- The text is a number that breaks off or is too great, when `rest` is the text behind it. -/
inductive Malformed : List Char → List Char → Prop
  | exponent {whole rest : List Char} {fraction : Option (List Char)} {marker : Char}
      {sign : Option Char} (is_whole : Digits whole) (is_fraction : ∀ ds ∈ fraction, Digits ds)
      (breaksOff : BreaksOff marker sign rest) :
      Malformed (whole ++ Numeral.fractionText fraction ++ marker :: sign.toList) rest
  | tooGreat {whole rest : List Char} (is_whole : Digits whole)
      (max : Numeral.EndsBefore ⟨whole, none, none⟩ rest)
      (maxInt_lt : Numeral.maxInt < digitsValue whole) : Malformed whole rest

theorem Malformed.exists_digit {text rest : List Char} (h : Malformed text rest) :
    ∃ d ds, text = d :: ds ∧ d.isDigit = true := by
  cases h with
  | exponent hwhole _ _ | tooGreat hwhole _ _ =>
    obtain ⟨d, ds, rfl⟩ := List.exists_cons_of_ne_nil hwhole.ne_nil
    exact ⟨d, _, rfl, hwhole.isDigit d List.mem_cons_self⟩

theorem readExponent_eq_error_iff {cs tail : List Char} :
    readExponent cs = .error tail ↔
      ∃ marker sign rest, BreaksOff marker sign rest ∧ tail = marker :: sign.toList ∧
        tail ++ rest = cs := by
  constructor
  · intro h
    unfold readExponent at h
    split at h
    · cases h
    · next c cs =>
      split at h
      · next hmarker =>
        obtain ⟨happend, hsign, hunsigned⟩ := readSign_eq_iff.1 (Prod.mk.eta (p := readSign cs)).symm
        dsimp only at h
        split at h
        · next htake =>
          cases h
          have hdigit := stops_dropWhile Char.isDigit (readSign cs).2
          rw [← List.takeWhile_append_dropWhile (p := Char.isDigit) (l := (readSign cs).2), htake,
            List.nil_append] at happend hunsigned
          exact ⟨c, _, _, ⟨hmarker, hsign, hunsigned, hdigit⟩, rfl, congrArg (c :: ·) happend⟩
        · cases h
      · cases h
  · rintro ⟨marker, sign, rest, h, rfl, rfl⟩
    have hread : readSign (sign.toList ++ rest) = (sign, rest) :=
      readSign_eq_iff.2 ⟨rfl, h.is_sign, h.unsigned⟩
    have htake : ([] ++ rest).takeWhile Char.isDigit = [] :=
      (takeWhile_dropWhile_append (by simp) h.no_digit).1
    rw [List.cons_append, readExponent, if_pos h.is_marker, hread]
    dsimp only
    rw [← List.nil_append rest, htake]

theorem BreaksOff.stops_append {marker : Char} {sign : Option Char} {rest : List Char}
    (h : BreaksOff marker sign rest) (cs : List Char) :
    Stops Char.isDigit (marker :: sign.toList ++ cs) := by
  refine stops_cons_iff.2 ?_
  rcases h.is_marker with hmarker | hmarker <;> rw [hmarker] <;> rfl

/-- A number that breaks off behind the letter of its exponent is malformed. -/
theorem malformed_of_readNumeral {c : Char} {cs text : List Char} (hc : c.isDigit = true)
    (h : readNumeral (c :: cs) = .error text) :
    ∃ rest, Malformed text rest ∧ text ++ rest = c :: cs := by
  unfold readNumeral at h
  obtain ⟨f, r, hf⟩ : ∃ f r, readFraction ((c :: cs).dropWhile Char.isDigit) = (f, r) :=
    ⟨_, _, rfl⟩
  dsimp only at h
  rw [hf] at h
  split at h
  case h_1 => cases h
  next tail htail =>
  cases h
  obtain ⟨hr, hfraction, -⟩ := readFraction_eq_iff.1 hf
  obtain ⟨marker, sign, rest, hbreaks, rfl, rfl⟩ := readExponent_eq_error_iff.1 htail
  have hwhole : Digits ((c :: cs).takeWhile Char.isDigit) :=
    ⟨by simp [hc], fun _ => List.mem_takeWhile_imp⟩
  refine ⟨rest, .exponent hwhole (fun ds hds => (hfraction ds hds).1) hbreaks, ?_⟩
  rw [List.append_assoc, List.append_assoc, hr, List.takeWhile_append_dropWhile]

theorem readNumeral_breaksOff {whole rest : List Char} {fraction : Option (List Char)}
    {marker : Char} {sign : Option Char} (hwhole : Digits whole)
    (hfraction : ∀ ds ∈ fraction, Digits ds) (h : BreaksOff marker sign rest) :
    readNumeral (whole ++ Numeral.fractionText fraction ++ marker :: sign.toList ++ rest) =
      .error (whole ++ Numeral.fractionText fraction ++ marker :: sign.toList) := by
  have hexponent : readExponent (marker :: sign.toList ++ rest) = .error (marker :: sign.toList) :=
    readExponent_eq_error_iff.2 ⟨marker, sign, rest, h, rfl, rfl⟩
  have hstops := h.stops_append rest
  have hread : readFraction (Numeral.fractionText fraction ++ (marker :: sign.toList ++ rest)) =
      (fraction, marker :: sign.toList ++ rest) := by
    refine readFraction_eq_iff.2 ⟨rfl, fun ds hds => ⟨hfraction ds hds, hstops⟩, ?_⟩
    -- Without a fraction the letter follows at once, and that is no point.
    intro _ c t heq
    have hmarker : marker = '.' := (List.cons.inj heq).1
    rcases h.is_marker with hx | hx <;> rw [hx] at hmarker <;> cases hmarker
  have hsplit :=
    takeWhile_dropWhile_append hwhole.isDigit (stops_fractionText_append fraction hstops)
  rw [List.append_assoc, List.append_assoc, readNumeral]
  dsimp only
  rw [hsplit.1, hsplit.2, hread]
  dsimp only
  rw [hexponent]

theorem Numeral.text_whole (whole : List Char) : text ⟨whole, none, none⟩ = whole := by
  simp [text, fractionText, exponentText]

theorem Numeral.token?_eq_none_iff {n : Numeral} :
    n.token? = none ↔ n.IsBare ∧ maxInt < digitsValue n.whole := by
  unfold token?
  split
  · next hfraction hexponent =>
    have hbare : n.IsBare := ⟨hfraction, hexponent⟩
    dsimp only
    split
    · next hle => simp [hle]
    · next hgt => simpa [hbare] using hgt
  · next hbare =>
    have : ¬ n.IsBare := fun h => hbare h.1 h.2
    simp [this]

/-- A number that stands for no token is malformed. -/
theorem malformed_of_token?_eq_none {n : Numeral} {rest : List Char} (hwell : n.WellFormed)
    (hmax : n.EndsBefore rest) (hnone : n.token? = none) : Malformed n.text rest := by
  obtain ⟨⟨hfraction, hexponent⟩, hgt⟩ := Numeral.token?_eq_none_iff.1 hnone
  obtain ⟨whole, fraction, exponent⟩ := n
  cases hfraction
  cases hexponent
  rw [Numeral.text_whole]
  exact .tooGreat hwell.whole hmax hgt

/-! ## Faults -/

/-- The text begins with no lexeme, and the fault tells why. -/
inductive Faulty : List Char → Fault → Prop
  | unknown {c : Char} {cs : List Char} (no_lexeme : IsSign c) (no_sign : c ∉ signs)
      (no_operator : ¬ ['!', '='] <+: c :: cs) : Faulty (c :: cs) (.unknownToken c)
  | malformed {text rest : List Char} (malformed : Malformed text rest) :
      Faulty (text ++ rest) (.malformedNumber (String.ofList text))
  | unclosed {quote : Char} {cs : List Char} (isQuote : isQuote quote = true)
      (not_closed : ¬ Closed quote cs) : Faulty (quote :: cs) .unterminatedString

/-- A fault that is found is there. -/
theorem faulty_of_readLexeme {c : Char} {cs : List Char} {fault : Fault}
    (h : readLexeme c cs = .error fault) : Faulty (c :: cs) fault := by
  unfold readLexeme at h
  split at h
  · cases h
  next hstart =>
  split at h
  · next hdigit =>
    split at h
    · next text hn =>
      cases h
      obtain ⟨rest, hmalformed, happend⟩ := malformed_of_readNumeral hdigit hn
      rw [← happend]
      exact .malformed hmalformed
    · next n rest hn =>
      split at h
      · cases h
      · next hnone =>
        cases h
        obtain ⟨happend, hwell, hmax⟩ := (readNumeral_eq_ok_iff hdigit).1 hn
        rw [← happend]
        exact .malformed (malformed_of_token?_eq_none hwell hmax hnone)
  next hdigit =>
  split at h
  · next hquote =>
    split at h
    · cases h
    · next hnone =>
      cases h
      exact .unclosed hquote ((readStringBody_eq_none_iff (isQuote_spec hquote).2.2).1 hnone)
  next hquote =>
  split at h
  · cases h
  · next hfind =>
    split at h
    · cases h
    · next hkind =>
      cases h
      obtain ⟨hsign, hbang⟩ := no_sign_iff.1 ⟨hfind, hkind⟩
      simp only [Bool.not_eq_true] at hstart hdigit hquote
      exact .unknown ⟨hstart, hdigit, hquote⟩ hsign hbang

/-- A fault that is there is found. -/
theorem readLexeme_of_faulty {c : Char} {cs : List Char} {fault : Fault}
    (h : Faulty (c :: cs) fault) : readLexeme c cs = .error fault := by
  generalize htext : c :: cs = text at h
  cases h with
  | unknown hlexeme hsign hbang =>
    obtain ⟨rfl, rfl⟩ := List.cons.inj htext
    obtain ⟨hstart, hdigit, hquote⟩ := hlexeme
    obtain ⟨hfind, hkind⟩ := no_sign_iff.2 ⟨hsign, hbang⟩
    simp only [readLexeme, hstart, hdigit, hquote, hfind, hkind, Bool.false_eq_true, if_false]
  | @malformed text rest hmalformed =>
    have hc : c.isDigit = true := by
      obtain ⟨d, ds, hd, hdigit⟩ := hmalformed.exists_digit
      rw [hd] at htext
      obtain ⟨rfl, -⟩ := List.cons.inj htext
      exact hdigit
    have hstart := isWordStart_of_isDigit hc
    cases hmalformed with
    | exponent hwhole hfraction hbreaks =>
      have hread := readNumeral_breaksOff hwhole hfraction hbreaks
      rw [← htext] at hread
      simp [readLexeme, hstart, hc, hread]
    | tooGreat hwhole hmax hgt =>
      have hwell : Numeral.WellFormed ⟨text, none, none⟩ := ⟨hwhole, by simp, by simp⟩
      have hnone : Numeral.token? ⟨text, none, none⟩ = none :=
        Numeral.token?_eq_none_iff.2 ⟨⟨rfl, rfl⟩, hgt⟩
      have hread := readNumeral_text_append hwell hmax
      rw [Numeral.text_whole, ← htext] at hread
      simp [readLexeme, hstart, hc, hread, hnone, Numeral.text_whole]
  | unclosed hquote hclosed =>
    obtain ⟨rfl, rfl⟩ := List.cons.inj htext
    obtain ⟨hstart, hdigit, hne⟩ := isQuote_spec hquote
    have hnone : readStringBody c cs = none := (readStringBody_eq_none_iff hne).2 hclosed
    simp [readLexeme, hstart, hdigit, hquote, hnone]

/-- **The reader finds exactly the faults.** -/
theorem readLexeme_eq_error_iff {c : Char} {cs : List Char} {fault : Fault} :
    readLexeme c cs = .error fault ↔ Faulty (c :: cs) fault :=
  ⟨faulty_of_readLexeme, readLexeme_of_faulty⟩

theorem Faulty.exists_cons {cs : List Char} {fault : Fault} (h : Faulty cs fault) :
    ∃ c ds, cs = c :: ds := by
  cases h with
  | unknown | unclosed => exact ⟨_, _, rfl⟩
  | malformed hmalformed =>
    obtain ⟨d, ds, rfl, -⟩ := hmalformed.exists_digit
    exact ⟨d, _, rfl⟩

/-- No text has two faults. -/
theorem Faulty.unique {cs : List Char} {fault fault' : Fault} (h : Faulty cs fault)
    (h' : Faulty cs fault') : fault = fault' := by
  obtain ⟨c, ds, rfl⟩ := h.exists_cons
  rw [← readLexeme_eq_error_iff] at h h'
  rw [h] at h'
  exact Except.error.inj h'

end Gridwalk.Script
