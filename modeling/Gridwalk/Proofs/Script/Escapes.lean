import Gridwalk.Proofs.Script.Fault
import Gridwalk.Proofs.Script.Grammar
import Mathlib

/-!
# Runs of backslashes in strings

The reader of strings goes from left to right and takes backslashes in pairs. Its strings can also
be told from the runs of backslashes in them.

- **The end.** A string ends at the first quote that stands behind an even number of backslashes
  (`Inside`). The backslashes are counted backwards from the quote, as far as the opening one.
- **The value.** A run of backslashes stands for half as many. If its number is odd, one more
  backslash is left over: it is dropped in front of a quote, and stands for itself in front of any
  other character (`halved`). All other characters stand for themselves (`byRuns`).

**Theorem (`readLexeme_quote`).** Behind an opening quote the reader takes the text up to the end of
the string, and the token has the value by runs. It fails exactly if the string has no end, on the
line of the opening quote. The next lexeme is read as many lines further down as there are line
feeds in the string.

The proof follows the pairs of `StringText`. A pair in front neither ends a string nor changes which
quotes do (`inside_pair_iff`), and it adds two to the run behind it or is a run of its own.
-/

namespace Gridwalk.Script

/-! ## Where a string ends -/

/-- The text is the inside of a string: the quote behind it is the first one that is not escaped. -/
structure Inside (quote : Char) (inside : List Char) : Prop where
  unescaped : Unescaped inside
  first : ∀ before after, inside = before ++ quote :: after → ¬ Unescaped before

variable {quote : Char}

theorem inside_nil (quote : Char) : Inside quote [] where
  unescaped := unescaped_nil
  first := by simp

theorem not_unescaped_backslash : ¬ Unescaped ['\\'] := by simp [Unescaped, List.rtakeWhile]

/-- A pair that begins with a backslash makes no difference to the quotes behind it. -/
theorem unescaped_cons_cons (c : Char) (inside : List Char) :
    Unescaped ('\\' :: c :: inside) ↔ Unescaped inside := by
  by_cases hc : c = '\\'
  · rw [hc]
    exact unescaped_pair inside
  · exact unescaped_append_cons hc ['\\'] inside

theorem inside_pair_iff (hquote : quote ≠ '\\') (c : Char) {inside : List Char} :
    Inside quote ('\\' :: c :: inside) ↔ Inside quote inside := by
  constructor
  · rintro ⟨hunescaped, hfirst⟩
    refine ⟨(unescaped_cons_cons c inside).1 hunescaped, fun before after heq hbefore => ?_⟩
    refine hfirst ('\\' :: c :: before) after (by rw [heq]; rfl) ?_
    exact (unescaped_cons_cons c before).2 hbefore
  · rintro ⟨hunescaped, hfirst⟩
    refine ⟨(unescaped_cons_cons c inside).2 hunescaped, fun before after heq hbefore => ?_⟩
    match before, heq with
    | [], heq => exact hquote (List.cons.inj heq).1.symm
    | [_], heq =>
      obtain ⟨rfl, -⟩ := List.cons.inj heq
      exact not_unescaped_backslash hbefore
    | b :: d :: before, heq =>
      obtain ⟨hb, htail⟩ := List.cons.inj heq
      rw [← hb] at hbefore
      exact hfirst before after (List.cons.inj htail).2 ((unescaped_cons_cons d before).1 hbefore)

theorem inside_cons_iff {c : Char} (hquote : c ≠ quote) (hbackslash : c ≠ '\\')
    {inside : List Char} : Inside quote (c :: inside) ↔ Inside quote inside := by
  have hcons (cs : List Char) : Unescaped (c :: cs) ↔ Unescaped cs :=
    unescaped_append_cons hbackslash [] cs
  constructor
  · rintro ⟨hunescaped, hfirst⟩
    refine ⟨(hcons inside).1 hunescaped, fun before after heq hbefore => ?_⟩
    exact hfirst (c :: before) after (by rw [heq]; rfl) ((hcons before).2 hbefore)
  · rintro ⟨hunescaped, hfirst⟩
    refine ⟨(hcons inside).2 hunescaped, fun before after heq hbefore => ?_⟩
    cases before with
    | nil => exact hquote (List.cons.inj heq).1
    | cons d before =>
      obtain ⟨hd, htail⟩ := List.cons.inj heq
      rw [← hd] at hbefore
      exact hfirst before after htail ((hcons before).1 hbefore)

/-- A string does not go on behind its end. -/
theorem Inside.eq_nil {inside tail rest rest' : List Char} (h : Inside quote inside)
    (h' : Inside quote (inside ++ tail)) (heq : quote :: rest = tail ++ quote :: rest') :
    tail = [] := by
  cases tail with
  | nil => rfl
  | cons c tail =>
    obtain ⟨rfl, -⟩ := List.cons.inj heq
    exact absurd h.unescaped (h'.first inside tail rfl)

/-- A text has at most one string at its head. -/
theorem Inside.unique {inside inside' rest rest' : List Char} (h : Inside quote inside)
    (h' : Inside quote inside') (heq : inside ++ quote :: rest = inside' ++ quote :: rest') :
    inside = inside' ∧ rest = rest' := by
  have hinside : inside = inside' := by
    rcases List.append_eq_append_iff.1 heq with ⟨tail, rfl, htail⟩ | ⟨tail, rfl, htail⟩
    · rw [h.eq_nil h' htail, List.append_nil]
    · rw [h'.eq_nil h htail, List.append_nil]
  subst hinside
  exact ⟨rfl, (List.cons.inj (List.append_cancel_left heq)).2⟩

/-! ## What a string stands for -/

/-- What a run of `k` backslashes in front of a character stands for. -/
def halved (quote : Char) (k : Nat) (c : Char) : List Char :=
  List.replicate (k / 2) '\\' ++ if k % 2 = 1 ∧ c ≠ quote then ['\\'] else []

/-- What the inside of a string stands for, behind a run of `k` backslashes. The last run stands in
front of the closing quote. -/
def byRuns (quote : Char) (k : Nat) : List Char → List Char
  | [] => halved quote k quote
  | c :: cs =>
    if c = '\\' then byRuns quote (k + 1) cs else halved quote k c ++ c :: byRuns quote 0 cs

theorem halved_add_two (quote : Char) (k : Nat) (c : Char) :
    halved quote (k + 2) c = '\\' :: halved quote k c := by
  have hhalf : (k + 2) / 2 = k / 2 + 1 := by omega
  have hodd : (k + 2) % 2 = k % 2 := by omega
  rw [halved, halved, hhalf, hodd, List.replicate_succ, List.cons_append]

/-- Two more backslashes in a run stand for one more. -/
theorem byRuns_add_two (quote : Char) (k : Nat) (cs : List Char) :
    byRuns quote (k + 2) cs = '\\' :: byRuns quote k cs := by
  induction cs generalizing k with
  | nil => exact halved_add_two quote k quote
  | cons c cs ih =>
    rw [byRuns, byRuns]
    split
    · exact ih (k + 1)
    · rw [halved_add_two, List.cons_append]

theorem byRuns_cons {c : Char} (hc : c ≠ '\\') (cs : List Char) :
    byRuns quote 0 (c :: cs) = c :: byRuns quote 0 cs := by
  rw [byRuns, if_neg hc]
  rfl

/-- A backslash of its own in front of another character. -/
theorem byRuns_backslash_cons {c : Char} (hc : c ≠ '\\') (cs : List Char) :
    byRuns quote 0 ('\\' :: c :: cs) =
      (if c = quote then [] else ['\\']) ++ c :: byRuns quote 0 cs := by
  rw [byRuns, if_pos rfl, byRuns, if_neg hc]
  by_cases hq : c = quote <;> simp [halved, hq]

/-- What is read by pairs has an end and a value by runs. -/
theorem StringText.exists_inside (hquote : quote ≠ '\\') {text value : List Char}
    (h : StringText quote text value) :
    ∃ inside, text = inside ++ [quote] ∧ Inside quote inside ∧ value = byRuns quote 0 inside := by
  induction h with
  | close => exact ⟨[], rfl, inside_nil quote, rfl⟩
  | @escape c text value hc _ ih =>
    obtain ⟨inside, rfl, hinside, rfl⟩ := ih
    refine ⟨'\\' :: c :: inside, rfl, (inside_pair_iff hquote c).2 hinside, ?_⟩
    rcases hc with rfl | rfl
    · rw [byRuns_backslash_cons hquote, if_pos rfl, List.nil_append]
    · exact (byRuns_add_two quote 0 inside).symm
  | @backslash text value halone _ ih =>
    obtain ⟨inside, rfl, hinside, rfl⟩ := ih
    -- The backslash is a run of its own, since an ordinary character comes behind it.
    cases inside with
    | nil => simp at halone
    | cons d inside =>
      have hd : d ≠ quote ∧ d ≠ '\\' := by simpa using halone
      refine ⟨'\\' :: d :: inside, rfl, (inside_pair_iff hquote d).2 ?_, ?_⟩
      · exact (inside_cons_iff hd.1 hd.2).1 hinside
      · rw [byRuns_backslash_cons hd.2, if_neg hd.1, byRuns_cons hd.2, List.singleton_append]
  | @plain c text value hne hne' _ ih =>
    obtain ⟨inside, rfl, hinside, rfl⟩ := ih
    exact ⟨c :: inside, rfl, (inside_cons_iff hne hne').2 hinside, (byRuns_cons hne' inside).symm⟩

/-! ## Reading strings -/

theorem exists_inside_of_readStringBody (hquote : quote ≠ '\\') {cs : List Char} {b : StringBody}
    (h : readStringBody quote cs = some b) :
    ∃ inside, Inside quote inside ∧ cs = inside ++ quote :: b.rest ∧
      b = ⟨byRuns quote 0 inside, inside ++ [quote], b.rest⟩ := by
  obtain ⟨inside, htext, hinside, hvalue⟩ :=
    (stringText_of_readStringBody h).exists_inside hquote
  have happend := readStringBody_append h
  obtain ⟨value, text, rest⟩ := b
  dsimp only at htext hvalue happend ⊢
  subst htext hvalue
  exact ⟨inside, hinside, by rw [← happend, List.append_assoc]; rfl, rfl⟩

/-- A string is read up to its end, and gives its value. -/
theorem readStringBody_of_inside (hquote : quote ≠ '\\') {inside rest cs : List Char}
    (h : Inside quote inside) (hcs : cs = inside ++ quote :: rest) :
    readStringBody quote cs = some ⟨byRuns quote 0 inside, inside ++ [quote], rest⟩ := by
  have hclosed : Closed quote cs := ⟨inside, rest, hcs, h.unescaped⟩
  obtain ⟨b, hread⟩ :=
    Option.isSome_iff_exists.1 ((readStringBody_isSome_iff hquote cs).2 hclosed)
  obtain ⟨inside', h', hcs', hb⟩ := exists_inside_of_readStringBody hquote hread
  obtain ⟨rfl, hrest⟩ := h.unique h' (hcs.symm.trans hcs')
  rw [hread, hb, hrest]

theorem readLexeme_of_isQuote (hquote : isQuote quote = true) (cs : List Char) :
    readLexeme quote cs =
      match readStringBody quote cs with
      | some b => .ok ⟨⟨.stringLit, .str (String.ofList b.value)⟩, quote :: b.text, b.rest⟩
      | none => .error .unterminatedString := by
  obtain ⟨hstart, hdigit, -⟩ := isQuote_spec hquote
  cases hread : readStringBody quote cs <;>
    simp only [readLexeme, hstart, hdigit, hquote, hread, Bool.false_eq_true, if_false, if_true]

/-- The lexeme of a string with this inside. -/
def stringLexeme (quote : Char) (inside rest : List Char) : Lexeme :=
  ⟨⟨.stringLit, .str (String.ofList (byRuns quote 0 inside))⟩, quote :: (inside ++ [quote]), rest⟩

/-- A quote begins a lexeme, so reading does not skip anything in front of it. -/
theorem scan_of_isQuote (hquote : isQuote quote = true) (line : Nat) (cs : List Char) :
    scan line (quote :: cs) =
      match readLexeme quote cs with
      | .error fault => ⟨[], some ⟨fault, line⟩⟩
      | .ok l =>
        ⟨⟨l.token, line + Text.newlines l.text⟩ ::
            (scan (line + Text.newlines l.text) l.rest).tokens,
          (scan (line + Text.newlines l.text) l.rest).stop⟩ := by
  have hspan : spanTrivia false (quote :: cs) = ([], quote :: cs) :=
    spanTrivia_stop (stops_cons_iff.2 (startsTrivia_of_isQuote hquote))
  rw [scan_eq, hspan]
  rfl

/-- **Strings by runs.** Behind an opening quote, the text up to the first quote that is not escaped
is read, and gives its value by runs. The reader fails exactly if there is no such quote, on the
line of the opening one; otherwise it goes on as many lines further down as it took line feeds. -/
theorem readLexeme_quote (hquote : isQuote quote = true) (line : Nat) (cs : List Char) :
    (∀ l, readLexeme quote cs = .ok l ↔
      ∃ inside, Inside quote inside ∧ cs = inside ++ quote :: l.rest ∧
        l = stringLexeme quote inside l.rest) ∧
    (∀ fault, readLexeme quote cs = .error fault ↔
      fault = .unterminatedString ∧ ¬ Closed quote cs) ∧
    scan line (quote :: cs) =
      match readLexeme quote cs with
      | .error fault => ⟨[], some ⟨fault, line⟩⟩
      | .ok l =>
        ⟨⟨l.token, line + Text.newlines l.text⟩ ::
            (scan (line + Text.newlines l.text) l.rest).tokens,
          (scan (line + Text.newlines l.text) l.rest).stop⟩ := by
  have hne := (isQuote_spec hquote).2.2
  have hread := readLexeme_of_isQuote hquote cs
  have hnone : readStringBody quote cs = none ↔ _ := readStringBody_eq_none_iff hne
  refine ⟨fun l => ?_, fun fault => ?_, scan_of_isQuote hquote line cs⟩
  · rw [hread]
    constructor
    · intro h
      split at h
      · next b hb =>
        cases h
        obtain ⟨inside, hinside, hcs, hvalue⟩ := exists_inside_of_readStringBody hne hb
        exact ⟨inside, hinside, hcs, by rw [hvalue]; rfl⟩
      · cases h
    · rintro ⟨inside, hinside, hcs, hl⟩
      rw [hl] at hcs ⊢
      rw [readStringBody_of_inside hne hinside hcs]
      rfl
  · rw [hread, ← hnone]
    cases readStringBody quote cs with
    | none => simp [eq_comm]
    | some b => simp

/-- The inside of a string with an escaped quote, a run of three backslashes in front of `n`, a line
feed, and a run of two backslashes at the end. -/
def zigzag : List Char := ['\\', '"', 'a', '\\', '\\', '\\', 'n', '\n', '\\', '\\']

theorem inside_zigzag : Inside '"' zigzag := by
  have hquote : '"' ≠ '\\' := by decide
  refine (inside_pair_iff hquote '"').2 ((inside_cons_iff (by decide) (by decide)).2 ?_)
  refine (inside_pair_iff hquote '\\').2 ((inside_pair_iff hquote 'n').2 ?_)
  refine (inside_cons_iff (by decide) (by decide)).2 ?_
  exact (inside_pair_iff hquote '\\').2 (inside_nil '"')

/-- The closing quote is found, and without it the string has no end. -/
theorem readLexeme_zigzag :
    isQuote '"' = true ∧
    readLexeme '"' (zigzag ++ ['"', '"']) =
      .ok ⟨⟨.stringLit, .str "\"a\\\\n\n\\"⟩, '"' :: (zigzag ++ ['"']), ['"']⟩ ∧
    scan 7 ('"' :: zigzag) = ⟨[], some ⟨.unterminatedString, 7⟩⟩ ∧ ¬ Closed '"' zigzag := by
  have hquote : isQuote '"' = true := rfl
  obtain ⟨hread, -, -⟩ := readLexeme_quote hquote 7 (zigzag ++ ['"', '"'])
  obtain ⟨-, hfails, hscan⟩ := readLexeme_quote hquote 7 zigzag
  have herror : readLexeme '"' zigzag = .error .unterminatedString := rfl
  refine ⟨hquote, (hread _).2 ⟨zigzag, inside_zigzag, rfl, rfl⟩, ?_, ((hfails _).1 herror).2⟩
  rw [hscan, herror]

end Gridwalk.Script
