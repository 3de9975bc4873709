import Gridwalk.Proofs.Script.Fault
import Gridwalk.Proofs.Script.Grammar
import Mathlib

/-!
# Cuts

A script is cut between two lexemes, or in trivia where no comment is open: the text in front of
the cut splits into trivia and lexemes that the text behind it does not continue (`SplitsBefore`).

**Reading over a cut (`scan_append`).** The text in front of a cut gives its tokens, and the text
behind it is read like a script of its own that begins on a later line.

**Other texts behind a cut (`SplitsBefore.mono`).** How far a lexeme goes depends on what begins
the text behind it. Where a lexeme ends in front of some text, it also ends in front of the head of
that text, and of the same text with a line feed and anything at its end (`EndsLike`): no lexeme is
continued by a line feed.
-/

namespace Gridwalk.Script

/-- What begins `rest'` begins `rest` as well, unless there is a line feed in it. -/
def EndsLike (rest rest' : List Char) : Prop := ∀ s, s <+: rest' → '\n' ∈ s ∨ s <+: rest

variable {rest rest' : List Char}

/-- A text that begins two joined texts ends in the first or goes on into the second. -/
theorem prefix_append_cases {s cs ds : List Char} (h : s <+: cs ++ ds) :
    s <+: cs ∨ ∃ t, s = cs ++ t ∧ t <+: ds := by
  rcases List.prefix_or_prefix_of_prefix h (List.prefix_append cs ds) with hshort | ⟨t, rfl⟩
  · exact .inl hshort
  · exact .inr ⟨t, rfl, (List.prefix_append_right_inj cs).1 h⟩

/-- What ends in front of a text ends in front of its head. -/
theorem endsLike_of_append (head tail : List Char) : EndsLike (head ++ tail) head :=
  fun _ hs => .inr (hs.trans (List.prefix_append head tail))

/-- What ends in front of a text also ends if a line feed is put at the end of that text. -/
theorem endsLike_append_newline (rest tail : List Char) :
    EndsLike rest (rest ++ '\n' :: tail) := by
  intro s hs
  rcases prefix_append_cases hs with hshort | ⟨t, rfl, ht⟩
  · exact .inr hshort
  · cases t with
    | nil => exact .inr (by simp)
    | cons c t =>
      obtain ⟨rfl, -⟩ := List.cons_prefix_cons.1 ht
      exact .inl (by simp)

theorem EndsLike.append (text : List Char) (h : EndsLike rest rest') :
    EndsLike (text ++ rest) (text ++ rest') := by
  intro s hs
  rcases prefix_append_cases hs with hshort | ⟨t, rfl, ht⟩
  · exact .inr (hshort.trans (List.prefix_append text rest))
  · rw [List.prefix_append_right_inj]
    exact (h t ht).imp_left (List.mem_append_right text)

theorem EndsLike.head {c : Char} (h : EndsLike rest rest') (hc : c ∈ rest'.head?) :
    c = '\n' ∨ c ∈ rest.head? := by
  obtain ⟨cs, rfl⟩ := List.head?_eq_some_iff.1 hc
  rcases h [c] ⟨cs, rfl⟩ with hnewline | ⟨cs, rfl⟩
  · exact .inl (List.mem_singleton.1 hnewline).symm
  · exact .inr rfl

/-! ## Lexemes -/

theorem Stops.mono {p : Char → Bool} (h : Stops p rest) (hnewline : p '\n' = false)
    (hrest : EndsLike rest rest') : Stops p rest' := by
  intro c hc
  rcases hrest.head hc with rfl | hc
  · exact hnewline
  · exact h c hc

theorem Numeral.EndsBefore.mono {n : Numeral} (h : n.EndsBefore rest)
    (hrest : EndsLike rest rest') : n.EndsBefore rest' := by
  refine ⟨h.digit.mono rfl hrest, ?_, fun hexponent => (h.marker hexponent).mono rfl hrest⟩
  rintro hfraction hexponent c cs rfl
  rcases hrest ['.', c] ⟨cs, rfl⟩ with hnewline | ⟨cs, hcs⟩
  · obtain rfl : '\n' = c := by simpa using hnewline
    rfl
  · exact h.point hfraction hexponent c cs hcs.symm

theorem Unextended.mono {text : List Char} (h : Unextended text rest)
    (hrest : EndsLike rest rest') : Unextended text rest' := by
  have hnewline : ∀ op ∈ operators, '\n' ∉ op := by decide
  intro c hc
  rcases hrest.head hc with rfl | hc
  · exact fun hop => hnewline _ hop (by simp)
  · exact h c hc

theorem Spells.mono {denotes : Numeral → Token → Prop} {text : List Char} {t : Token}
    (h : Spells denotes text rest t) (hrest : EndsLike rest rest') :
    Spells denotes text rest' t := by
  cases h with
  | word hstart hchars hmax => exact .word hstart hchars (hmax.mono rfl hrest)
  | number hwell hmax hdenoted => exact .number hwell (hmax.mono hrest) hdenoted
  | string hquote hbody => exact .string hquote hbody
  | operator hmem hmax => exact .operator hmem (hmax.mono hrest)
  | punctuation hkind hmax => exact .punctuation hkind (hmax.mono hrest)

/-! ## Trivia -/

theorem TriviaBefore.mono {w : List Char} (h : TriviaBefore rest w)
    (hrest : EndsLike rest rest') : TriviaBefore rest' w := by
  induction h with
  | nil => exact .nil
  | blank hblank _ ih => exact .blank hblank ih
  | @comment body w hbody hends _ ih =>
    refine .comment hbody (fun c hc => ?_) ih
    rcases (hrest.append w).head hc with hnewline | hc
    · exact hnewline
    · exact hends c hc

/-! ## Scripts -/

/-- The text splits into trivia and lexemes that spell the tokens, when `rest` is the text behind
it. -/
inductive SplitsBefore (rest : List Char) : List Char → List Token → Prop
  | done {w : List Char} (trivia : TriviaBefore rest w) : SplitsBefore rest w []
  | next {w text tail : List Char} {t : Token} {ts : List Token}
      (trivia : TriviaBefore (text ++ (tail ++ rest)) w)
      (lexeme : Spells Numeral.Denotes text (tail ++ rest) t)
      (splits : SplitsBefore rest tail ts) : SplitsBefore rest (w ++ (text ++ tail)) (t :: ts)

theorem SplitsBefore.mono {front : List Char} {ts : List Token} (h : SplitsBefore rest front ts)
    (hrest : EndsLike rest rest') : SplitsBefore rest' front ts := by
  induction h with
  | done htrivia => exact .done (htrivia.mono hrest)
  | @next w text tail t ts htrivia hspells _ ih =>
    exact .next (htrivia.mono ((hrest.append tail).append text)) (hspells.mono (hrest.append tail))
      ih

/-- A script is cut behind its end. -/
theorem splits_iff_splitsBefore_nil {cs : List Char} {ts : List Token} :
    Splits Numeral.Denotes cs ts ↔ SplitsBefore [] cs ts := by
  constructor
  · intro h
    induction h with
    | done htrivia => exact .done htrivia
    | next htrivia hspells _ ih =>
      exact .next (by rwa [List.append_nil]) (by rwa [List.append_nil]) ih
  · intro h
    induction h with
    | done htrivia => exact .done htrivia
    | next htrivia hspells _ ih =>
      rw [List.append_nil] at htrivia hspells
      exact .next htrivia hspells ih

/-- What stands in front of a cut is a script of its own. -/
theorem SplitsBefore.tokenize_eq {front : String} {ts : List Token}
    (h : SplitsBefore rest front.toList ts) : tokenize front = .ok ts := by
  have hsplits : Splits Numeral.Denotes front.toList ts :=
    splits_iff_splitsBefore_nil.2 (h.mono (endsLike_of_append [] rest))
  exact tokenize_eq_ok_iff.2 (scan_of_splits hsplits 1)

/-! ## Reading over a cut -/

/-- The text in front of a cut gives its tokens, and reading goes on behind the cut. -/
theorem scan_append {front : List Char} {ts : List Token} (h : SplitsBefore rest front ts)
    (line : Nat) :
    (scan line (front ++ rest)).tokens.map (·.token) =
        ts ++ (scan (line + Text.newlines front) rest).tokens.map (·.token) ∧
      (scan line (front ++ rest)).stop = (scan (line + Text.newlines front) rest).stop := by
  induction h generalizing line with
  | done htrivia => simp [scan_trivia_append htrivia]
  | @next w text tail t ts htrivia hspells _ ih =>
    obtain ⟨htokens, hstop⟩ := ih (line + Text.newlines w + Text.newlines text)
    rw [List.append_assoc, List.append_assoc, scan_trivia_append htrivia,
      scan_lexeme_append hspells, Text.newlines_append, Text.newlines_append, ← Nat.add_assoc,
      ← Nat.add_assoc]
    exact ⟨congrArg (t :: ·) htokens, hstop⟩

/-- Behind a cut, a fault stops the reading at once. -/
theorem scan_faulty {fault : Fault} (hrest : Stops startsTrivia rest) (h : Faulty rest fault)
    (line : Nat) : scan line rest = ⟨[], some ⟨fault, line⟩⟩ := by
  obtain ⟨c, cs, rfl⟩ := h.exists_cons
  have hread : readLexeme c cs = .error fault := readLexeme_of_faulty h
  rw [scan_eq, spanTrivia_stop hrest]
  simp only [hread]
  rfl

theorem stops_spanTrivia (inComment : Bool) (cs : List Char) :
    Stops startsTrivia (spanTrivia inComment cs).2 := by
  induction cs generalizing inComment with
  | nil => exact stops_nil _
  | cons c cs ih =>
    unfold spanTrivia
    split
    · exact ih _
    · next hc =>
      rw [stops_cons_iff, startsTrivia]
      simp_all

theorem tokenize_eq_error_iff_stop {source : String} {e : LexError} :
    tokenize source = .error e ↔ (scan 1 source.toList).stop = some e := by
  unfold tokenize scanScript
  dsimp only
  cases (scan 1 source.toList).stop with
  | none => simp
  | some e => simp

/-- Where reading stops, the script is cut and faulty behind the cut. -/
theorem exists_cut_of_stop {line : Nat} {cs : List Char} {e : LexError}
    (h : (scan line cs).stop = some e) :
    ∃ front rest, cs = front ++ rest ∧
      SplitsBefore rest front ((scan line cs).tokens.map (·.token)) ∧
      Stops startsTrivia rest ∧ Faulty rest e.fault ∧ e.line = line + Text.newlines front := by
  have hcs := spanTrivia_append false cs
  have htrivia := (spanTrivia_spec cs).1
  have hstops := stops_spanTrivia false cs
  induction line, cs using scan.induct with
  | case1 line cs w hspan =>
    rw [scan_eq, hspan] at h
    cases h
  | case2 line cs w c rest hspan fault hread =>
    rw [hspan] at hcs htrivia hstops
    rw [scan_eq, hspan] at h ⊢
    simp only [hread, Option.some.injEq] at h ⊢
    subst h
    exact ⟨w, c :: rest, hcs.symm, .done htrivia, hstops, faulty_of_readLexeme hread, rfl⟩
  | case3 line cs w c rest hspan start l hread stop ih =>
    -- The cut of what is left to read is the cut of the whole.
    obtain ⟨htext, hspells⟩ := readLexeme_eq_ok_iff.1 hread
    rw [hspan, ← htext] at hcs htrivia
    rw [scan_eq, hspan] at h ⊢
    simp only [hread] at h ⊢
    obtain ⟨front, behind, hrest, hsplits, hstops', hfaulty, hline⟩ :=
      ih h (spanTrivia_append _ _) (spanTrivia_spec _).1 (stops_spanTrivia _ _)
    rw [hrest] at hcs htrivia hspells
    refine ⟨w ++ (l.text ++ front), behind, ?_, .next htrivia hspells hsplits, hstops', hfaulty, ?_⟩
    · rw [← hcs, List.append_assoc, List.append_assoc]
    · rw [hline, Text.newlines_append, Text.newlines_append]
      omega

end Gridwalk.Script
