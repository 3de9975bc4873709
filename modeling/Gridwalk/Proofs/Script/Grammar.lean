import Gridwalk.Proofs.Script.Lexeme
import Gridwalk.Proofs.Text.Lines
import Gridwalk.Script.Scan
import Mathlib

/-!
# The grammar of scripts

A script is trivia and lexemes in turn, with trivia at both ends (`Splits`). Trivia are blanks and
comments; a comment goes on up to a line feed or to the end of the script.

**Theorem (`tokenize_iff_splits`).** The tokens of a script are exactly those that it splits into.

Trivia are read as far as they go. They cannot go too far, since no lexeme begins with a blank or
with `#`, and a comment in the grammar goes on to the end of its line as well. So the reader cuts
where the grammar does (`spanTrivia_append_of_trivia`).
-/

namespace Gridwalk.Script

/-! ## Trivia -/

/-- The text is trivia when `rest` is the text behind it. -/
inductive TriviaBefore (rest : List Char) : List Char → Prop
  | nil : TriviaBefore rest []
  | blank {c : Char} {w : List Char} (isBlank : Text.isBlank c = true)
      (tail : TriviaBefore rest w) : TriviaBefore rest (c :: w)
  | comment {body w : List Char} (one_line : '\n' ∉ body)
      (ends : ∀ c ∈ (w ++ rest).head?, c = '\n') (tail : TriviaBefore rest w) :
      TriviaBefore rest ('#' :: (body ++ w))

/-- Trivia begin with a blank or with `#`. -/
def startsTrivia (c : Char) : Bool := Text.isBlank c || c == '#'

theorem ne_hash_of_isBlank {c : Char} (h : Text.isBlank c = true) : c ≠ '#' := by
  rintro rfl
  revert h
  decide

theorem spanTrivia_blank {c : Char} (h : Text.isBlank c = true) (cs : List Char) :
    spanTrivia false (c :: cs) = (c :: (spanTrivia false cs).1, (spanTrivia false cs).2) := by
  simp [spanTrivia, h, beq_false_of_ne (ne_hash_of_isBlank h)]

theorem spanTrivia_hash (cs : List Char) :
    spanTrivia false ('#' :: cs) = ('#' :: (spanTrivia true cs).1, (spanTrivia true cs).2) := rfl

theorem spanTrivia_stop {cs : List Char} (h : Stops startsTrivia cs) :
    spanTrivia false cs = ([], cs) := by
  cases cs with
  | nil => rfl
  | cons c cs =>
    have hc := stops_cons_iff.1 h
    rw [startsTrivia] at hc
    simp [spanTrivia, hc]

theorem spanTrivia_newline (cs : List Char) :
    spanTrivia true ('\n' :: cs) = ('\n' :: (spanTrivia false cs).1, (spanTrivia false cs).2) := rfl

theorem spanTrivia_comment {c : Char} (h : c ≠ '\n') (cs : List Char) :
    spanTrivia true (c :: cs) = (c :: (spanTrivia true cs).1, (spanTrivia true cs).2) := by
  have hc : (c != '\n') = true := by simpa using h
  simp [spanTrivia, hc]

/-- At the end of a line it makes no difference whether a comment is open. -/
theorem spanTrivia_line_end {cs : List Char} (h : ∀ c ∈ cs.head?, c = '\n') :
    spanTrivia true cs = spanTrivia false cs := by
  cases cs with
  | nil => rfl
  | cons c cs =>
    rw [h c rfl]
    rfl

/-- What is skipped is trivia; in a comment, it is the rest of the comment and then trivia. -/
theorem spanTrivia_spec (cs : List Char) :
    TriviaBefore (spanTrivia false cs).2 (spanTrivia false cs).1 ∧
      ∃ body w, (spanTrivia true cs).1 = body ++ w ∧ '\n' ∉ body ∧
        (∀ c ∈ (w ++ (spanTrivia true cs).2).head?, c = '\n') ∧
        TriviaBefore (spanTrivia true cs).2 w := by
  induction cs with
  | nil => exact ⟨.nil, [], [], rfl, by simp, by simp [spanTrivia], .nil⟩
  | cons c cs ih =>
    obtain ⟨hskip, body, w, htext, hbody, hends, htail⟩ := ih
    constructor
    · by_cases hblank : Text.isBlank c = true
      · rw [spanTrivia_blank hblank]
        exact .blank hblank hskip
      by_cases hhash : c = '#'
      · rw [hhash, spanTrivia_hash, htext]
        exact .comment hbody hends htail
      · rw [spanTrivia_stop (stops_cons_iff.2 (by simp [startsTrivia, hblank, hhash]))]
        exact .nil
    · by_cases hnewline : c = '\n'
      · rw [hnewline, spanTrivia_newline]
        exact ⟨[], _, rfl, by simp, by simp, .blank rfl hskip⟩
      · rw [spanTrivia_comment hnewline]
        exact ⟨c :: body, w, by rw [htext, List.cons_append], by simp [hbody, Ne.symm hnewline],
          hends, htail⟩

theorem spanTrivia_body_append {body : List Char} (h : '\n' ∉ body) (cs : List Char) :
    spanTrivia true (body ++ cs) = (body ++ (spanTrivia true cs).1, (spanTrivia true cs).2) := by
  induction body with
  | nil => rfl
  | cons c body ih =>
    rw [List.mem_cons, not_or] at h
    rw [List.cons_append, spanTrivia_comment (Ne.symm h.1), ih h.2]
    rfl

/-- Trivia are skipped, and the reader goes on skipping behind them. -/
theorem spanTrivia_append_of_trivia {w rest : List Char} (h : TriviaBefore rest w) :
    spanTrivia false (w ++ rest) = (w ++ (spanTrivia false rest).1, (spanTrivia false rest).2) := by
  induction h with
  | nil => rfl
  | blank hblank _ ih => rw [List.cons_append, spanTrivia_blank hblank, ih, List.cons_append]
  | comment hbody hends _ ih =>
    rw [List.cons_append, List.append_assoc, spanTrivia_hash, spanTrivia_body_append hbody,
      spanTrivia_line_end hends, ih, List.cons_append, List.append_assoc]

/-! ## No lexeme begins with trivia -/

theorem startsTrivia_of_isWordChar {c : Char} (h : isWordChar c = true) :
    startsTrivia c = false := by
  have hne : c ≠ '#' := by
    rintro rfl
    revert h
    decide
  have hbounds : 48 ≤ c.toNat ∧ c.toNat ≤ 122 := by
    simp [isWordChar, Char.isAlphanum, Char.isAlpha, Char.isUpper, Char.isLower, Char.isDigit,
      UInt32.le_iff_toNat_le] at h
    rcases h with h | rfl
    · omega
    · decide
  simp [startsTrivia, Text.isBlank, hne]
  omega

theorem startsTrivia_of_isQuote {c : Char} (h : isQuote c = true) : startsTrivia c = false := by
  rcases eq_or_eq_of_isQuote h with rfl | rfl <;> decide

theorem stops_startsTrivia_of_mem_operators {op : List Char} (h : op ∈ operators) :
    Stops startsTrivia op := by
  have hstops : ∀ op ∈ operators, (op.head?.all fun c => !startsTrivia c) = true := by decide
  intro c hc
  simpa [Option.mem_def.1 hc] using hstops op h

theorem startsTrivia_of_punctuation {c : Char} {kind : TokenKind}
    (h : punctuation? c = some kind) : startsTrivia c = false := by
  unfold punctuation? at h
  split at h
  case h_8 => cases h
  all_goals decide

theorem stops_startsTrivia_of_spells {denotes : Numeral → Token → Prop} {text rest : List Char}
    {t : Token} (h : Spells denotes text rest t) : Stops startsTrivia text := by
  cases h with
  | word hstart _ _ =>
    exact stops_cons_iff.2 (startsTrivia_of_isWordChar (isWordChar_of_isWordStart hstart))
  | @number n _ _ hwell _ _ =>
    obtain ⟨d, ds, htext, hd⟩ := hwell.exists_digit
    rw [htext]
    refine stops_cons_iff.2 (startsTrivia_of_isWordChar ?_)
    simp [isWordChar, Char.isAlphanum, hd]
  | string hquote _ => exact stops_cons_iff.2 (startsTrivia_of_isQuote hquote)
  | operator hmem _ => exact stops_startsTrivia_of_mem_operators hmem
  | punctuation hkind _ => exact stops_cons_iff.2 (startsTrivia_of_punctuation hkind)

/-! ## Scripts -/

/-- The text splits into trivia and lexemes that spell the tokens. -/
inductive Splits (denotes : Numeral → Token → Prop) : List Char → List Token → Prop
  | done {w : List Char} (trivia : TriviaBefore [] w) : Splits denotes w []
  | next {w text rest : List Char} {t : Token} {ts : List Token}
      (trivia : TriviaBefore (text ++ rest) w) (lexeme : Spells denotes text rest t)
      (tail : Splits denotes rest ts) : Splits denotes (w ++ (text ++ rest)) (t :: ts)

/-! ## Reading -/

/-- A step of the scanner. -/
theorem scan_eq (line : Nat) (cs : List Char) :
    scan line cs =
      match spanTrivia false cs with
      | (_, []) => ⟨[], none⟩
      | (w, c :: rest) =>
        match readLexeme c rest with
        | .error fault => ⟨[], some ⟨fault, line + Text.newlines w⟩⟩
        | .ok l =>
          let stop := line + Text.newlines w + Text.newlines l.text
          ⟨⟨l.token, stop⟩ :: (scan stop l.rest).tokens, (scan stop l.rest).stop⟩ := by
  rw [scan]
  split
  · next hspan => rw [hspan]
  · next w c rest hspan =>
    rw [hspan]
    dsimp only
    split
    · next hread => rw [hread]
    · next hread => rw [hread]

/-- Trivia in front of a text only move it to a later line. -/
theorem scan_trivia_append {w rest : List Char} (h : TriviaBefore rest w) (line : Nat) :
    scan line (w ++ rest) = scan (line + Text.newlines w) rest := by
  rw [scan_eq, spanTrivia_append_of_trivia h, scan_eq (line + Text.newlines w)]
  obtain ⟨v, behind, hspan⟩ : ∃ v behind, spanTrivia false rest = (v, behind) := ⟨_, _, rfl⟩
  rw [hspan]
  cases behind with
  | nil => rfl
  | cons c cs => simp only [Text.newlines_append, Nat.add_assoc]

/-- A lexeme in front of a text gives its token. -/
theorem scan_lexeme_append {text rest : List Char} {t : Token}
    (h : Spells Numeral.Denotes text rest t) (line : Nat) :
    scan line (text ++ rest) =
      ⟨⟨t, line + Text.newlines text⟩ :: (scan (line + Text.newlines text) rest).tokens,
        (scan (line + Text.newlines text) rest).stop⟩ := by
  have hstops := stops_startsTrivia_of_spells h
  obtain ⟨c, cs, rfl⟩ := h.exists_cons
  have hread : readLexeme c (cs ++ rest) = .ok ⟨t, c :: cs, rest⟩ := readLexeme_of_spells h rfl
  have hspan : spanTrivia false (c :: (cs ++ rest)) = ([], c :: (cs ++ rest)) :=
    spanTrivia_stop (stops_cons_iff.2 (stops_cons_iff.1 hstops))
  rw [List.cons_append, scan_eq, hspan]
  simp only [hread]
  rfl

/-- What is read to the end splits into the tokens that are read. -/
theorem splits_of_scan {line : Nat} {cs : List Char} (h : (scan line cs).stop = none) :
    Splits Numeral.Denotes cs ((scan line cs).tokens.map (·.token)) := by
  have hcs := spanTrivia_append false cs
  have htrivia := (spanTrivia_spec cs).1
  induction line, cs using scan.induct with
  | case1 line cs w hspan =>
    rw [hspan] at hcs htrivia
    rw [scan_eq, hspan, ← hcs, List.append_nil]
    exact .done htrivia
  | case2 line cs w c rest hspan fault hread =>
    rw [scan_eq, hspan] at h
    simp only [hread] at h
    cases h
  | case3 line cs w c rest hspan start l hread stop ih =>
    obtain ⟨htext, hspells⟩ := readLexeme_eq_ok_iff.1 hread
    rw [hspan, ← htext] at hcs htrivia
    rw [scan_eq, hspan] at h ⊢
    simp only [hread] at h ⊢
    rw [← hcs]
    exact .next htrivia hspells (ih h (spanTrivia_append _ _) (spanTrivia_spec _).1)

/-- What splits into tokens is read to the end. -/
theorem scan_of_splits {cs : List Char} {ts : List Token} (h : Splits Numeral.Denotes cs ts)
    (line : Nat) : (scan line cs).stop = none ∧ (scan line cs).tokens.map (·.token) = ts := by
  induction h generalizing line with
  | @done w htrivia =>
    have hskip := scan_trivia_append htrivia line
    rw [List.append_nil, scan_eq (line + Text.newlines w)] at hskip
    rw [hskip]
    exact ⟨rfl, rfl⟩
  | @next w text rest t ts htrivia hspells _ ih =>
    rw [scan_trivia_append htrivia, scan_lexeme_append hspells]
    obtain ⟨hstop, htokens⟩ := ih (line + Text.newlines w + Text.newlines text)
    exact ⟨hstop, congrArg (t :: ·) htokens⟩

theorem tokenize_eq_ok_iff {source : String} {ts : List Token} :
    tokenize source = .ok ts ↔
      (scan 1 source.toList).stop = none ∧ (scan 1 source.toList).tokens.map (·.token) = ts := by
  unfold tokenize scanScript
  dsimp only
  cases hstop : (scan 1 source.toList).stop with
  | none => simp
  | some e => simp

/-- **The grammar of scripts.** A script is read as some tokens exactly if it splits into trivia
and lexemes that spell them. -/
theorem tokenize_iff_splits (source : String) (ts : List Token) :
    tokenize source = .ok ts ↔ Splits Numeral.Denotes source.toList ts := by
  rw [tokenize_eq_ok_iff]
  constructor
  · rintro ⟨hstop, rfl⟩
    exact splits_of_scan hstop
  · intro h
    exact scan_of_splits h 1

/-! ## Integers that do not fit -/

/-- Another reading of numbers, in which an integer that does not fit is the nearest double. -/
inductive Numeral.DenotesRounded (n : Numeral) : Token → Prop
  | int (bare : n.IsBare) (le_maxInt : digitsValue n.whole ≤ maxInt) :
      DenotesRounded n ⟨.intLit, .int (digitsValue n.whole)⟩
  | float (not_int : ¬ (n.IsBare ∧ digitsValue n.whole ≤ maxInt)) :
      DenotesRounded n ⟨.floatLit, .float n.double⟩

/-- The least integer that does not fit. -/
def tooGreat : Numeral where
  whole := ['9', '2', '2', '3', '3', '7', '2', '0', '3', '6', '8', '5', '4', '7', '7', '5', '8',
    '0', '8']
  fraction := none
  exponent := none

theorem splits_tooGreat :
    Splits Numeral.DenotesRounded tooGreat.whole [⟨.floatLit, .float tooGreat.double⟩] := by
  have hwell : tooGreat.WellFormed := by
    have hdigits : tooGreat.whole.all Char.isDigit = true := by decide
    refine ⟨⟨by decide, List.all_eq_true.1 hdigits⟩, ?_, ?_⟩
    · rintro ds ⟨⟩
    · rintro e ⟨⟩
  have hends : tooGreat.EndsBefore [] := by
    refine ⟨stops_nil _, ?_, fun _ => stops_nil _⟩
    rintro - - c cs ⟨⟩
  have hint : ¬ (tooGreat.IsBare ∧ digitsValue tooGreat.whole ≤ Numeral.maxInt) := by
    rintro ⟨-, hle⟩
    revert hle
    decide
  exact .next .nil (.number hwell hends (.float hint)) (.done .nil)

/-- The reader does not follow the other reading: it refuses the integer. -/
theorem tokenize_not_rounded :
    ¬ ∀ ts, tokenize "9223372036854775808" = .ok ts ↔
      Splits Numeral.DenotesRounded "9223372036854775808".toList ts := by
  intro h
  have hsource : "9223372036854775808".toList = tooGreat.whole := by rfl
  rw [hsource] at h
  obtain ⟨hstop, -⟩ := tokenize_eq_ok_iff.1 ((h _).2 splits_tooGreat)
  rw [hsource, scan_eq] at hstop
  cases hstop

end Gridwalk.Script
