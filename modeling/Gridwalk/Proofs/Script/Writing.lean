import Gridwalk.Proofs.Script.Grammar
import Mathlib

/-!
# Writing scripts

A writer turns tokens into a script again. Words, operators and punctuation have one spelling. The
writer of a string chooses its quotes and puts a backslash in front of every such quote and every
backslash inside; the writer of an integer may put zeros in front. Between two tokens there has to
be some trivia, and any trivia may stand at both ends. All these choices are a `Manuscript`.

**Theorem (`tokenize_manuscript`).** A script that was written from tokens is read as those tokens.

Numbers with a fraction or an exponent are left out: a double has many spellings, and which one is
nearest to it is no matter of scripts.

The trivia behind a token keep it from being continued: no character that begins trivia goes on
with a word, a number or an operator (`Token.Writable.spells`). So the script splits into its trivia
and the spellings of its tokens, and the grammar of scripts does the rest.
-/

namespace Gridwalk.Script

/-! ## Spellings -/

/-- What the writer of a token chooses. -/
structure Style where
  quote : Char := '"'
  isQuote : isQuote quote = true := by rfl
  zeros : Nat := 0

/-- The inside of a string literal between these quotes. -/
def escape (quote : Char) (value : List Char) : List Char :=
  value.flatMap fun c => if c = quote ∨ c = '\\' then ['\\', c] else [c]

/-- The spelling of punctuation. -/
def TokenKind.mark : TokenKind → List Char
  | indent => ['{']
  | deindent => ['}']
  | assign => ['=']
  | openParen => ['(']
  | closeParen => [')']
  | semicolon => [';']
  | comma => [',']
  | nop | keyword | reference | operator | stringLit | intLit | floatLit => []

/-- The spelling of a token in a style. Doubles are not written. -/
def Token.write (style : Style) (t : Token) : List Char :=
  match t.value with
  | .none => t.kind.mark
  | .str s =>
    if t.kind = .stringLit then style.quote :: (escape style.quote s.toList ++ [style.quote])
    else s.toList
  | .int n => List.replicate style.zeros '0' ++ Nat.toDigits 10 n.toNat
  | .float _ => []
  | .ident s => s.toList

/-- The tokens that can be written. -/
inductive Token.Writable : Token → Prop
  | word {c : Char} {cs : List Char} (start : isWordStart c = true)
      (chars : ∀ d ∈ cs, isWordChar d = true) : Writable (wordToken (String.ofList (c :: cs)))
  | punctuation {c : Char} {kind : TokenKind} (isPunctuation : punctuation? c = some kind) :
      Writable (.bare kind)
  | operator {op : List Char} (mem : op ∈ operators) :
      Writable ⟨.operator, .str (String.ofList op)⟩
  | string (s : String) : Writable ⟨.stringLit, .str s⟩
  | integer {n : Nat} (le_maxInt : n ≤ Numeral.maxInt) : Writable ⟨.intLit, .int n⟩

/-! ## Nothing continues a token -/

/-- The text is empty or begins with trivia. -/
def TriviaFirst (cs : List Char) : Prop := ∀ c ∈ cs.head?, startsTrivia c = true

/-- Where trivia begin, a run of a class without trivia stops. -/
theorem TriviaFirst.stops {cs : List Char} (h : TriviaFirst cs) {p : Char → Bool}
    (hp : ∀ c, p c = true → startsTrivia c = false) : Stops p cs := by
  intro c hc
  by_contra hpc
  have hnot := hp c (by simpa using hpc)
  rw [h c hc] at hnot
  cases hnot

theorem startsTrivia_of_mem_of_mem_operators {op : List Char} (h : op ∈ operators) :
    ∀ c ∈ op, startsTrivia c = false := by
  have hall : ∀ op ∈ operators, (op.all fun c => !startsTrivia c) = true := by decide
  simpa using hall op h

theorem TriviaFirst.unextended {cs : List Char} (h : TriviaFirst cs) (text : List Char) :
    Unextended text cs := by
  intro c hc hlonger
  have hnot := startsTrivia_of_mem_of_mem_operators hlonger c (by simp)
  rw [h c hc] at hnot
  cases hnot

theorem TriviaFirst.endsBefore {cs : List Char} (h : TriviaFirst cs) (n : Numeral) :
    n.EndsBefore cs where
  digit := h.stops fun c hc =>
    startsTrivia_of_isWordChar (by simp [isWordChar, Char.isAlphanum, hc])
  point := by
    rintro - - c t rfl
    have hpoint : startsTrivia '.' = true := h '.' rfl
    cases hpoint
  marker := by
    refine fun _ => h.stops fun c hc => ?_
    rcases of_decide_eq_true hc with rfl | rfl <;> decide

/-! ## The parts of a literal -/

/-- The written inside of a string stands for the string. -/
theorem stringText_escape {quote : Char} (value : List Char) :
    StringText quote (escape quote value ++ [quote]) value := by
  induction value with
  | nil => exact .close
  | cons c value ih =>
    rw [escape, List.flatMap_cons]
    by_cases hc : c = quote ∨ c = '\\'
    · rw [if_pos hc]
      exact .escape hc ih
    · rw [if_neg hc]
      rw [not_or] at hc
      exact .plain hc.1 hc.2 ih

theorem digitsValue_eq_ofDigitChars (ds : List Char) :
    digitsValue ds = Nat.ofDigitChars 10 ds 0 := by
  have hstep : (fun n c => n * 10 + digitValue c) = fun n c => 10 * n + (c.toNat - '0'.toNat) := by
    funext n c
    rw [Nat.mul_comm]
    rfl
  rw [digitsValue, hstep]
  rfl

/-- Zeros in front of the digits of a number do not change it. -/
theorem digitsValue_replicate_append (zeros n : Nat) :
    digitsValue (List.replicate zeros '0' ++ Nat.toDigits 10 n) = n := by
  have hzeros : digitsValue (List.replicate zeros '0') = 0 := by
    induction zeros with
    | zero => rfl
    | succ zeros ih => exact ih
  calc digitsValue (List.replicate zeros '0' ++ Nat.toDigits 10 n)
      = (Nat.toDigits 10 n).foldl (fun n c => n * 10 + digitValue c)
          (digitsValue (List.replicate zeros '0')) := List.foldl_append
    _ = digitsValue (Nat.toDigits 10 n) := by rw [hzeros]; rfl
    _ = n := by
      rw [digitsValue_eq_ofDigitChars]
      exact Nat.ofDigitChars_ten_toDigits

/-- The digits of a number with zeros in front. -/
theorem digits_replicate_append (zeros n : Nat) :
    Digits (List.replicate zeros '0' ++ Nat.toDigits 10 n) where
  ne_nil := by simp [Nat.toDigits_ne_nil]
  isDigit := by
    intro c hc
    rcases List.mem_append.1 hc with hzero | hdigit
    · rw [List.eq_of_mem_replicate hzero]
      rfl
    · exact Nat.isDigit_of_mem_toDigits (by decide) (by decide) hdigit

/-! ## One token -/

theorem mark_of_punctuation {c : Char} {kind : TokenKind} (h : punctuation? c = some kind) :
    kind.mark = [c] := by
  unfold punctuation? at h
  split at h
  case h_8 => cases h
  all_goals
    cases h
    rfl

/-- In front of trivia, what is written for a token spells it. -/
theorem Token.Writable.spells {t : Token} (h : t.Writable) (style : Style) {rest : List Char}
    (hrest : TriviaFirst rest) : Spells Numeral.Denotes (t.write style) rest t := by
  cases h with
  | @word c cs hstart hchars =>
    have hwrite : (wordToken (String.ofList (c :: cs))).write style = c :: cs :=
      String.toList_ofList
    rw [hwrite]
    exact .word hstart hchars (hrest.stops fun _ => startsTrivia_of_isWordChar)
  | @punctuation c kind hkind =>
    have hwrite : (Token.bare kind).write style = [c] := mark_of_punctuation hkind
    rw [hwrite]
    exact .punctuation hkind (hrest.unextended _)
  | @operator op hmem =>
    have hwrite : (⟨.operator, .str (String.ofList op)⟩ : Token).write style = op :=
      String.toList_ofList
    rw [hwrite]
    exact .operator hmem (hrest.unextended _)
  | string s =>
    have hspells : Spells Numeral.Denotes ((⟨.stringLit, .str s⟩ : Token).write style) rest
        ⟨.stringLit, .str (String.ofList s.toList)⟩ :=
      .string style.isQuote (stringText_escape s.toList)
    rwa [String.ofList_toList] at hspells
  | @integer n hle =>
    have hdigits := digits_replicate_append style.zeros n
    have hvalue := digitsValue_replicate_append style.zeros n
    generalize hwhole : List.replicate style.zeros '0' ++ Nat.toDigits 10 n = whole
      at hdigits hvalue
    have hwrite :
        (⟨.intLit, .int n⟩ : Token).write style = (⟨whole, none, none⟩ : Numeral).text := by
      simp [write, Numeral.text, Numeral.fractionText, Numeral.exponentText, ← hwhole]
    rw [hwrite, ← hvalue]
    refine .number ⟨hdigits, ?_, ?_⟩ (hrest.endsBefore _) (.int ⟨rfl, rfl⟩ ?_)
    · rintro ds ⟨⟩
    · rintro e ⟨⟩
    · exact hvalue.trans_le hle

/-! ## Manuscripts -/

/-- A piece of trivia: a blank, or a comment with the line feed that ends it. -/
inductive Filler where
  | blank (c : Char) (isBlank : Text.isBlank c = true)
  | comment (body : List Char) (one_line : '\n' ∉ body)

def Filler.text : Filler → List Char
  | blank c _ => [c]
  | comment body _ => '#' :: (body ++ ['\n'])

/-- The text of some trivia. -/
def fill (fs : List Filler) : List Char := fs.flatMap Filler.text

/-- A token in a script, and the trivia behind it. -/
structure Placed where
  token : Token
  style : Style := {}
  gap : List Filler := []

def Placed.text (p : Placed) : List Char := p.token.write p.style ++ fill p.gap

/-- Tokens, and all that is chosen when they are written as a script. -/
structure Manuscript where
  lead : List Filler := []
  placed : List Placed
  separated : ∀ p ∈ placed.dropLast, p.gap ≠ [] := by decide
  /-- A comment that only the end of the script ends. -/
  remark : Option { body : List Char // '\n' ∉ body } := none

namespace Manuscript

def tokens (m : Manuscript) : List Token := m.placed.map (·.token)

def remarkText : Option { body : List Char // '\n' ∉ body } → List Char
  | none => []
  | some body => '#' :: body.1

/-- The script that is written. -/
def text (m : Manuscript) : List Char :=
  fill m.lead ++ (m.placed.flatMap Placed.text ++ remarkText m.remark)

end Manuscript

/-! ## Trivia as they are written -/

theorem triviaBefore_fill_append {rest w : List Char} (fs : List Filler) (h : TriviaBefore rest w) :
    TriviaBefore rest (fill fs ++ w) := by
  induction fs with
  | nil => exact h
  | cons f fs ih =>
    rw [fill, List.flatMap_cons, List.append_assoc]
    cases f with
    | blank c hblank => exact .blank hblank ih
    | comment body hline =>
      rw [Filler.text, List.cons_append, List.append_assoc]
      exact .comment hline (by simp) (.blank rfl ih)

theorem triviaFirst_fill_append {fs : List Filler} (h : fs ≠ []) (rest : List Char) :
    TriviaFirst (fill fs ++ rest) := by
  obtain ⟨f, fs, rfl⟩ := List.exists_cons_of_ne_nil h
  rintro c hc
  cases f with
  | blank d hblank =>
    cases hc
    simp [startsTrivia, hblank]
  | comment body hline =>
    cases hc
    rfl

theorem triviaBefore_remarkText (r : Option { body : List Char // '\n' ∉ body }) :
    TriviaBefore [] (Manuscript.remarkText r) := by
  cases r with
  | none => exact .nil
  | some body =>
    have hcomment : TriviaBefore [] ('#' :: (body.1 ++ [])) := .comment body.2 (by simp) .nil
    rwa [List.append_nil] at hcomment

theorem triviaFirst_remarkText (r : Option { body : List Char // '\n' ∉ body }) :
    TriviaFirst (Manuscript.remarkText r) := by
  cases r with
  | none => exact fun _ hc => by cases hc
  | some body =>
    rintro c ⟨⟩
    rfl

/-! ## Reading what was written -/

/-- What is written splits into its trivia and the spellings of its tokens. -/
theorem splits_placed {placed : List Placed} (hwritable : ∀ p ∈ placed, p.token.Writable)
    (hseparated : ∀ p ∈ placed.dropLast, p.gap ≠ []) (lead : List Filler)
    (remark : Option { body : List Char // '\n' ∉ body }) :
    Splits Numeral.Denotes
      (fill lead ++ (placed.flatMap Placed.text ++ Manuscript.remarkText remark))
      (placed.map (·.token)) := by
  induction placed generalizing lead with
  | nil => exact .done (triviaBefore_fill_append lead (triviaBefore_remarkText remark))
  | cons p placed ih =>
    obtain ⟨hp, hplaced⟩ := List.forall_mem_cons.1 hwritable
    have htail : ∀ q ∈ placed.dropLast, q.gap ≠ [] := by
      intro q hq
      cases placed with
      | nil => cases hq
      | cons r rs => exact hseparated q (List.mem_cons_of_mem _ hq)
    -- Only behind the last token there may be no trivia, and then the script ends there.
    have hfirst : TriviaFirst
        (fill p.gap ++ (placed.flatMap Placed.text ++ Manuscript.remarkText remark)) := by
      cases placed with
      | nil =>
        by_cases hgap : p.gap = []
        · rw [hgap]
          exact triviaFirst_remarkText remark
        · exact triviaFirst_fill_append hgap _
      | cons q qs => exact triviaFirst_fill_append (hseparated p List.mem_cons_self) _
    have hlead (rest : List Char) : TriviaBefore rest (fill lead) := by
      have happend : TriviaBefore rest (fill lead ++ []) := triviaBefore_fill_append lead .nil
      rwa [List.append_nil] at happend
    rw [List.flatMap_cons, Placed.text, List.append_assoc, List.append_assoc]
    exact .next (hlead _) (hp.spells p.style hfirst) (ih hplaced htail p.gap)

/-- **Writing and reading.** A script that was written from tokens is read as those tokens. -/
theorem tokenize_manuscript (m : Manuscript) (hwritable : ∀ t ∈ m.tokens, t.Writable) :
    tokenize (String.ofList m.text) = .ok m.tokens := by
  have hplaced : ∀ p ∈ m.placed, p.token.Writable := fun p hp =>
    hwritable p.token (List.mem_map_of_mem hp)
  have hsplits := splits_placed hplaced m.separated m.lead m.remark
  rw [tokenize_eq_ok_iff, String.toList_ofList]
  exact scan_of_splits hsplits 1

/-- A manuscript with hard cases: a string that ends in a backslash and holds both quotes, `#` and
a line feed; the greatest integer behind zeros; operators with the same beginning. -/
def sampler : Manuscript where
  lead := [.comment ['#'] (by decide)]
  placed :=
    [{ token := wordToken "exit", gap := [.blank ' ' rfl] },
      { token := ⟨.stringLit, .str "'\"#\n\\"⟩, style := { quote := '\'' },
        gap := [.comment [] (by decide)] },
      { token := ⟨.intLit, .int 9223372036854775807⟩, style := { zeros := 2 },
        gap := [.blank '\u3000' rfl] },
      { token := .bare .assign, gap := [.blank '\r' rfl] },
      { token := ⟨.operator, .str "=="⟩ }]
  remark := some ⟨['\''], by decide⟩

example : String.ofList sampler.text =
    "##\nexit '\\'\"#\n\\\\'#\n009223372036854775807\u3000=\r==#'" := by rfl

theorem tokenize_sampler :
    (∀ t ∈ sampler.tokens, t.Writable) ∧
      tokenize (String.ofList sampler.text) = .ok sampler.tokens := by
  have hwritable : ∀ t ∈ sampler.tokens, t.Writable := by
    intro t ht
    simp only [Manuscript.tokens, sampler, List.map_cons, List.map_nil, List.mem_cons,
      List.not_mem_nil, or_false] at ht
    rcases ht with rfl | rfl | rfl | rfl | rfl
    · have hexit : ∀ c ∈ ['x', 'i', 't'], isWordChar c = true := List.all_eq_true.1 rfl
      exact .word rfl hexit
    · exact .string _
    · exact .integer (n := 9223372036854775807) (by decide)
    · exact .punctuation (c := '=') rfl
    · have hequal : ['=', '='] ∈ operators := by decide
      exact .operator hequal
  exact ⟨hwritable, tokenize_manuscript sampler hwritable⟩

end Gridwalk.Script
