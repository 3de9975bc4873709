import Gridwalk.Proofs.Script.Writing
import Mathlib

/-!
# Spacing

The blanks and comments between the lexemes of a script do not matter, as long as no two lexemes are
put together that were apart.

**Arrangements.** A script that is read is trivia, lexeme, trivia, lexeme and so on (`Arrangement`),
and this in just one way (`Arrangement.ext_text`).

**Respacing.** Any other trivia may take the place of those in front of the first lexeme, between
two lexemes and behind the last one (`Respacing`). Between two lexemes there may be none only where
there were none before. So a script without trivia may get some at every end of a lexeme.

**Theorem (`tokenize_eq_ok_iff_respaced`).** A script is read as some tokens exactly if it is an
arrangement of their lexemes; then it can be respaced in every way and is read as the same tokens.

How far a lexeme goes depends on the text behind it. If trivia come behind the lexeme, nothing
continues it (`Spells.of_triviaFirst`). If the next lexeme comes behind it, now as before, then the
first character of that one is all that counts, since no lexeme begins with a point
(`Spells.of_head`). So a respacing of lexemes is an arrangement again (`Respaced.joined`), and what
is arranged is read.
-/

namespace Gridwalk.Script

/-! ## Other texts behind a lexeme -/

/-- Trivia end a lexeme, whatever came behind it before. -/
theorem Spells.of_triviaFirst {denotes : Numeral → Token → Prop} {text rest rest' : List Char}
    {t : Token} (h : Spells denotes text rest t) (hrest : TriviaFirst rest') :
    Spells denotes text rest' t := by
  cases h with
  | word hstart hchars _ =>
    exact .word hstart hchars (hrest.stops fun _ => startsTrivia_of_isWordChar)
  | @number n _ _ hwell _ hdenoted => exact .number hwell (hrest.endsBefore n) hdenoted
  | string hquote hbody => exact .string hquote hbody
  | operator hmem _ => exact .operator hmem (hrest.unextended _)
  | punctuation hkind _ => exact .punctuation hkind (hrest.unextended _)

/-- If the text behind a lexeme begins with no point, only its first character counts. -/
theorem Spells.of_head {denotes : Numeral → Token → Prop} {c : Char} {text rest : List Char}
    {t : Token} (h : Spells denotes text (c :: rest) t) (hc : c ≠ '.') (rest' : List Char) :
    Spells denotes text (c :: rest') t := by
  have hstops {p : Char → Bool} (hp : Stops p (c :: rest)) : Stops p (c :: rest') :=
    stops_cons_iff.2 (stops_cons_iff.1 hp)
  cases h with
  | word hstart hchars hmax => exact .word hstart hchars (hstops hmax)
  | number hwell hmax hdenoted =>
    refine .number hwell ⟨hstops hmax.digit, ?_, fun hexponent => hstops (hmax.marker hexponent)⟩
      hdenoted
    intro _ _ d ds heq
    exact absurd (List.cons.inj heq).1 hc
  | string hquote hbody => exact .string hquote hbody
  | operator hmem hmax => exact .operator hmem hmax
  | punctuation hkind hmax => exact .punctuation hkind hmax

theorem readLexeme_point (cs : List Char) : readLexeme '.' cs = .error (.unknownToken '.') := rfl

/-- No lexeme begins with a point. -/
theorem Spells.ne_point {c : Char} {cs rest : List Char} {t : Token}
    (h : Spells Numeral.Denotes (c :: cs) rest t) : c ≠ '.' := by
  rintro rfl
  have hread : readLexeme '.' (cs ++ rest) = .ok ⟨t, '.' :: cs, rest⟩ := readLexeme_of_spells h rfl
  rw [readLexeme_point] at hread
  cases hread

/-! ## Arrangements -/

/-- A lexeme with its token, and the trivia behind it. -/
@[ext]
structure Piece where
  text : List Char
  token : Token
  gap : List Char

/-- The text of pieces, one behind the other. -/
def join (ps : List Piece) : List Char := ps.flatMap fun p => p.text ++ p.gap

/-- Every piece is a lexeme and trivia, in front of the pieces behind it. -/
inductive Joined : List Piece → Prop
  | nil : Joined []
  | cons {p : Piece} {ps : List Piece}
      (lexeme : Spells Numeral.Denotes p.text (p.gap ++ join ps) p.token)
      (trivia : TriviaBefore (join ps) p.gap) (tail : Joined ps) : Joined (p :: ps)

/-- A script, cut into its trivia and its lexemes. -/
@[ext]
structure Arrangement where
  lead : List Char
  pieces : List Piece
  lead_trivia : TriviaBefore (join pieces) lead
  joined : Joined pieces

theorem join_cons (p : Piece) (ps : List Piece) :
    join (p :: ps) = p.text ++ (p.gap ++ join ps) := by
  rw [join, List.flatMap_cons, List.append_assoc]
  rfl

theorem Joined.stops {ps : List Piece} (h : Joined ps) : Stops startsTrivia (join ps) := by
  cases h with
  | nil => exact stops_nil _
  | @cons p ps hlexeme _ _ =>
    have hstops := stops_startsTrivia_of_spells hlexeme
    obtain ⟨c, cs, htext⟩ := hlexeme.exists_cons
    rw [htext] at hstops
    rw [join_cons, htext]
    exact stops_cons_iff.2 (stops_cons_iff.1 hstops)

/-- The trivia in front of pieces are all that is skipped there. -/
theorem Joined.spanTrivia {ps : List Piece} (h : Joined ps) {w : List Char}
    (hw : TriviaBefore (join ps) w) :
    Script.spanTrivia false (w ++ join ps) = (w, join ps) := by
  rw [spanTrivia_append_of_trivia hw, spanTrivia_stop h.stops, List.append_nil]

/-- A text is cut into pieces in one way only. -/
theorem Joined.unique {ps qs : List Piece} (h : Joined ps) (h' : Joined qs)
    (heq : join ps = join qs) : ps = qs := by
  induction h generalizing qs with
  | nil =>
    cases h' with
    | nil => rfl
    | cons hlexeme _ _ =>
      obtain ⟨c, cs, htext⟩ := hlexeme.exists_cons
      rw [join_cons, htext] at heq
      cases heq
  | @cons p ps hlexeme htrivia hps ih =>
    obtain ⟨c, cs, htext⟩ := hlexeme.exists_cons
    have happend : p.text ++ (p.gap ++ join ps) = c :: (cs ++ (p.gap ++ join ps)) := by
      rw [htext, List.cons_append]
    cases h' with
    | nil =>
      rw [join_cons, happend] at heq
      cases heq
    | @cons q qs hlexeme' htrivia' hqs =>
      rw [join_cons, join_cons] at heq
      -- The same lexeme is read at the head of both, and the same trivia are skipped behind it.
      have hread := readLexeme_of_spells hlexeme happend
      rw [readLexeme_of_spells hlexeme' (heq.symm.trans happend)] at hread
      obtain ⟨htoken, htext', hrest⟩ := Lexeme.mk.inj (Except.ok.inj hread)
      have hspan := hqs.spanTrivia htrivia'
      rw [hrest, hps.spanTrivia htrivia] at hspan
      obtain ⟨hgap, htail⟩ := Prod.mk.inj hspan
      rw [ih hqs htail, Piece.ext htext'.symm htoken.symm hgap]

/-- Pieces and the trivia in front of them split into the tokens of the pieces. -/
theorem Joined.splits {lead : List Char} {ps : List Piece} (h : Joined ps)
    (hlead : TriviaBefore (join ps) lead) :
    Splits Numeral.Denotes (lead ++ join ps) (ps.map (·.token)) := by
  induction h generalizing lead with
  | nil =>
    rw [join, List.flatMap_nil, List.append_nil]
    exact .done hlead
  | @cons p ps hlexeme htrivia _ ih =>
    rw [join_cons] at hlead ⊢
    exact .next hlead hlexeme (ih htrivia)

namespace Arrangement

def text (a : Arrangement) : List Char := a.lead ++ join a.pieces

def tokens (a : Arrangement) : List Token := a.pieces.map (·.token)

/-- There is just one arrangement of a script. -/
theorem ext_text {a b : Arrangement} (h : a.text = b.text) : a = b := by
  have hspan := a.joined.spanTrivia a.lead_trivia
  rw [show a.lead ++ join a.pieces = b.lead ++ join b.pieces from h,
    b.joined.spanTrivia b.lead_trivia] at hspan
  obtain ⟨hlead, hjoin⟩ := Prod.mk.inj hspan
  exact Arrangement.ext hlead.symm (a.joined.unique b.joined hjoin.symm)

/-- What splits into tokens has an arrangement. -/
theorem exists_of_splits {cs : List Char} {ts : List Token} (h : Splits Numeral.Denotes cs ts) :
    ∃ a : Arrangement, a.text = cs ∧ a.tokens = ts := by
  induction h with
  | @done w htrivia => exact ⟨⟨w, [], htrivia, .nil⟩, List.append_nil w, rfl⟩
  | @next w text rest t ts htrivia hlexeme _ ih =>
    obtain ⟨a, rfl, rfl⟩ := ih
    have hjoin : join (⟨text, t, a.lead⟩ :: a.pieces) = text ++ a.text := join_cons _ _
    refine ⟨⟨w, ⟨text, t, a.lead⟩ :: a.pieces, ?_, .cons hlexeme a.lead_trivia a.joined⟩, ?_, rfl⟩
    · rw [hjoin]
      exact htrivia
    · exact congrArg (w ++ ·) hjoin

end Arrangement

/-! ## Respacing -/

/-- The same lexemes with other trivia behind them. Two lexemes that are apart are kept apart. -/
inductive Respaced : List Piece → List Piece → Prop
  | nil : Respaced [] []
  | cons {text : List Char} {token : Token} {gap gap' : List Char} {ps qs : List Piece}
      (trivia : TriviaBefore (join qs) gap') (kept_apart : qs ≠ [] → gap' = [] → gap = [])
      (tail : Respaced ps qs) : Respaced (⟨text, token, gap⟩ :: ps) (⟨text, token, gap'⟩ :: qs)

/-- Other trivia for an arrangement. -/
structure Respacing (a : Arrangement) where
  lead : List Char
  pieces : List Piece
  lead_trivia : TriviaBefore (join pieces) lead
  respaced : Respaced a.pieces pieces

def Respacing.text {a : Arrangement} (r : Respacing a) : List Char := r.lead ++ join r.pieces

theorem TriviaBefore.triviaFirst {w rest : List Char} (h : TriviaBefore rest w) (hw : w ≠ []) :
    TriviaFirst (w ++ rest) := by
  cases h with
  | nil => exact absurd rfl hw
  | blank hblank _ =>
    rintro c ⟨⟩
    simp [startsTrivia, hblank]
  | comment _ _ _ =>
    rintro c ⟨⟩
    rfl

/-- Respacing keeps what a lexeme stands for. -/
theorem Respaced.spells {text gap gap' : List Char} {token : Token} {ps qs : List Piece}
    (hlexeme : Spells Numeral.Denotes text (gap ++ join ps) token) (hjoined : Joined ps)
    (htrivia : TriviaBefore (join qs) gap') (hapart : qs ≠ [] → gap' = [] → gap = [])
    (h : Respaced ps qs) : Spells Numeral.Denotes text (gap' ++ join qs) token := by
  by_cases hgap : gap' = []
  · rw [hgap]
    cases h with
    | nil => exact hlexeme.of_triviaFirst fun _ hc => by cases hc
    | @cons next _ _ _ ps qs _ _ _ =>
      -- The lexemes still touch, so the next one begins where it did.
      rw [hapart (by simp) hgap, List.nil_append, join_cons] at hlexeme
      rw [List.nil_append, join_cons]
      cases hjoined with
      | cons hnext _ _ =>
        obtain ⟨c, cs, htext⟩ := hnext.exists_cons
        dsimp only at htext hnext hlexeme ⊢
        rw [htext] at hnext hlexeme ⊢
        exact hlexeme.of_head hnext.ne_point _
  · exact hlexeme.of_triviaFirst (htrivia.triviaFirst hgap)

theorem Respaced.joined {ps qs : List Piece} (h : Respaced ps qs) (hjoined : Joined ps) :
    Joined qs := by
  induction h with
  | nil => exact .nil
  | cons htrivia hapart htail ih =>
    cases hjoined with
    | cons hlexeme _ hps => exact .cons (htail.spells hlexeme hps htrivia hapart) htrivia (ih hps)

theorem Respaced.tokens {ps qs : List Piece} (h : Respaced ps qs) :
    qs.map (·.token) = ps.map (·.token) := by
  induction h with
  | nil => rfl
  | cons _ _ _ ih => rw [List.map_cons, List.map_cons, ih]

theorem tokenize_eq_ok_of_splits {cs : List Char} {ts : List Token}
    (h : Splits Numeral.Denotes cs ts) : tokenize (String.ofList cs) = .ok ts := by
  rw [tokenize_eq_ok_iff, String.toList_ofList]
  exact scan_of_splits h 1

/-- **Respacing.** A script is read as some tokens exactly if it is an arrangement of their lexemes.
It has just one arrangement, and every respacing of that is read as the same tokens. -/
theorem tokenize_eq_ok_iff_respaced (source : String) (ts : List Token) :
    tokenize source = .ok ts ↔
      ∃ a : Arrangement, a.text = source.toList ∧ a.tokens = ts ∧
        (∀ b : Arrangement, b.text = source.toList → b = a) ∧
        ∀ r : Respacing a, tokenize (String.ofList r.text) = .ok ts := by
  constructor
  · intro h
    obtain ⟨hstop, rfl⟩ := tokenize_eq_ok_iff.1 h
    obtain ⟨a, htext, htokens⟩ := Arrangement.exists_of_splits (splits_of_scan hstop)
    refine ⟨a, htext, htokens, fun b hb => Arrangement.ext_text (hb.trans htext.symm), ?_⟩
    intro r
    rw [← htokens, Arrangement.tokens, ← r.respaced.tokens]
    exact tokenize_eq_ok_of_splits ((r.respaced.joined a.joined).splits r.lead_trivia)
  · rintro ⟨a, htext, rfl, -, -⟩
    rw [← String.ofList_toList (s := source), ← htext]
    exact tokenize_eq_ok_of_splits (a.joined.splits a.lead_trivia)

/-! ## A script with and without trivia -/

theorem Joined.of_readLexeme {c : Char} {cs gap : List Char} {token : Token} {ps : List Piece}
    (hread : readLexeme c (cs ++ (gap ++ join ps)) = .ok ⟨token, c :: cs, gap ++ join ps⟩)
    (htrivia : TriviaBefore (join ps) gap) (h : Joined ps) :
    Joined (⟨c :: cs, token, gap⟩ :: ps) :=
  .cons (spells_of_readLexeme hread) htrivia h

/-- A call, with no trivia at all. -/
def tightCall : Arrangement where
  lead := []
  pieces :=
    [⟨['f'], wordToken "f", []⟩, ⟨['('], .bare .openParen, []⟩, ⟨['1'], ⟨.intLit, .int 1⟩, []⟩,
      ⟨[','], .bare .comma, []⟩,
      ⟨['2', '.', '5'], ⟨.floatLit, .float (Numeral.double ⟨['2'], some ['5'], none⟩)⟩, []⟩,
      ⟨[')'], .bare .closeParen, []⟩, ⟨['*', '*'], ⟨.operator, .str "**"⟩, []⟩,
      ⟨['2'], ⟨.intLit, .int 2⟩, []⟩]
  lead_trivia := .nil
  joined :=
    .of_readLexeme rfl .nil <| .of_readLexeme rfl .nil <| .of_readLexeme rfl .nil <|
    .of_readLexeme rfl .nil <| .of_readLexeme rfl .nil <| .of_readLexeme rfl .nil <|
    .of_readLexeme rfl .nil <| .of_readLexeme rfl .nil .nil

/-- The call with blanks and comments. One of the comments ends with the script. -/
def airyCall : Respacing tightCall where
  lead := ['\n']
  pieces :=
    [⟨['f'], wordToken "f", [' ']⟩, ⟨['('], .bare .openParen, ['#', '(', '\n']⟩,
      ⟨['1'], ⟨.intLit, .int 1⟩, []⟩, ⟨[','], .bare .comma, ['\t', ' ']⟩,
      ⟨['2', '.', '5'], ⟨.floatLit, .float (Numeral.double ⟨['2'], some ['5'], none⟩)⟩, [' ']⟩,
      ⟨[')'], .bare .closeParen, []⟩, ⟨['*', '*'], ⟨.operator, .str "**"⟩, ['\r']⟩,
      ⟨['2'], ⟨.intLit, .int 2⟩, ['#', '3']⟩]
  lead_trivia := .blank rfl .nil
  respaced := by
    refine .cons (.blank rfl .nil) (by simp) <| .cons ?_ (by simp) <| .cons .nil (by simp) <|
      .cons (.blank rfl (.blank rfl .nil)) (by simp) <| .cons (.blank rfl .nil) (by simp) <|
      .cons .nil (by simp) <| .cons (.blank rfl .nil) (by simp) <| .cons ?_ (by simp) .nil
    · have hline : '\n' ∉ ['('] := by decide
      exact .comment hline (by simp) (.blank rfl .nil)
    · have hline : '\n' ∉ ['3'] := by decide
      exact .comment hline (by simp [join]) .nil

theorem tokenize_airyCall :
    tokenize "f(1,2.5)**2" = .ok tightCall.tokens ∧
      tokenize "\nf (#(\n1,\t 2.5 )**\r2#3" = .ok tightCall.tokens := by
  have htight : tokenize "f(1,2.5)**2" = .ok tightCall.tokens :=
    tokenize_eq_ok_of_splits (tightCall.joined.splits tightCall.lead_trivia)
  obtain ⟨a, -, -, hunique, hrespaced⟩ := (tokenize_eq_ok_iff_respaced _ _).1 htight
  have ha : tightCall = a := hunique tightCall rfl
  subst ha
  exact ⟨htight, hrespaced airyCall⟩

end Gridwalk.Script
