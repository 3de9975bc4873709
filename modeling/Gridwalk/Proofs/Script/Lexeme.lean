import Gridwalk.Proofs.Script.Numeral
import Gridwalk.Script.Lexeme
import Mathlib

/-!
# The grammar of lexemes

`Spells` says which texts spell a token, given the text behind them. A word, a number and an
operator are as long as possible; a string ends at its own quote.

**Theorem (`readLexeme_eq_ok_iff`).** The reader takes a lexeme exactly if the text is that lexeme
followed by the rest, and the lexeme spells the token.

The grammar leaves open which token a number denotes. The reader agrees with the grammar under
`Numeral.Denotes`.
-/

namespace Gridwalk.Script

/-! ## Strings -/

/-- The inside of a string literal together with its closing quote, and the string that it stands
for. -/
inductive StringText (quote : Char) : List Char → List Char → Prop
  | close : StringText quote [quote] []
  | escape {c : Char} {text value : List Char} (escapable : c = quote ∨ c = '\\')
      (body : StringText quote text value) : StringText quote ('\\' :: c :: text) (c :: value)
  | backslash {text value : List Char} (alone : Stops (fun c => c = quote ∨ c = '\\') text)
      (body : StringText quote text value) : StringText quote ('\\' :: text) ('\\' :: value)
  | plain {c : Char} {text value : List Char} (ne_quote : c ≠ quote) (ne_backslash : c ≠ '\\')
      (body : StringText quote text value) : StringText quote (c :: text) (c :: value)

theorem StringText.exists_cons {quote : Char} {text value : List Char}
    (h : StringText quote text value) : ∃ c cs, text = c :: cs := by
  cases h with
  | close | escape | backslash | plain => exact ⟨_, _, rfl⟩

theorem stringText_of_readStringBody {quote : Char} {cs : List Char} {b : StringBody}
    (h : readStringBody quote cs = some b) : StringText quote b.text b.value := by
  fun_induction readStringBody quote cs generalizing b with
  | case1 => cases h
  | case2 =>
    cases h
    exact .close
  | case3 => cases h
  | case4 c d cs hescape ih =>
    obtain ⟨b', hb, rfl⟩ := Option.map_eq_some_iff.1 h
    obtain ⟨rfl, hd⟩ := hescape
    exact .escape hd (ih hb)
  | case5 =>
    cases h
    exact .close
  | case6 c d cs hescape hquote ih =>
    obtain ⟨b', hb, rfl⟩ := Option.map_eq_some_iff.1 h
    have hbody := ih hb
    -- The reader treats a lone backslash like any other character.
    by_cases hc : c = '\\'
    · obtain ⟨d', t, htext⟩ := hbody.exists_cons
      have happend := readStringBody_append hb
      rw [htext] at happend
      obtain ⟨rfl, -⟩ := List.cons.inj happend
      subst hc
      refine .backslash ?_ hbody
      rw [htext]
      simpa using hescape
    · exact .plain hquote hc hbody

/-- The text of a string is read up to its closing quote. -/
theorem readStringBody_text_append {quote : Char} (hquote : quote ≠ '\\')
    {text value : List Char} (h : StringText quote text value) (rest : List Char) :
    readStringBody quote (text ++ rest) = some ⟨value, text, rest⟩ := by
  induction h with
  | close => cases rest <;> simp [readStringBody, hquote]
  | escape hc _ ih => simp [readStringBody, hc, ih, StringBody.push]
  | backslash halone hbody ih =>
    obtain ⟨d, t, rfl⟩ := hbody.exists_cons
    have hd : ¬ (d = quote ∨ d = '\\') := by simpa using halone
    rw [List.cons_append] at ih
    simp [readStringBody, hd, hquote.symm, ih, StringBody.push]
  | plain hne hne' hbody ih =>
    obtain ⟨d, t, rfl⟩ := hbody.exists_cons
    rw [List.cons_append] at ih
    simp [readStringBody, hne, hne', ih, StringBody.push]

/-! ## Operators -/

/-- No operator is `text` with the first character of `rest` at its end. -/
def Unextended (text rest : List Char) : Prop := ∀ c ∈ rest.head?, text ++ [c] ∉ operators

theorem length_of_mem_operators {op : List Char} (h : op ∈ operators) :
    op.length = 1 ∨ op.length = 2 := by
  revert op
  decide

/-- The longer operators come first. -/
theorem pairwise_operators : operators.Pairwise fun op op' => op'.length ≤ op.length := by
  decide

/-- An operator that is part of another one at the head of a text is extended by the text. -/
theorem not_unextended_of_prefix {op op' rest : List Char} (hop : op ∈ operators)
    (hop' : op' ∈ operators) (hhead : op' <+: op ++ rest) (hlt : op.length < op'.length) :
    ¬ Unextended op rest := by
  obtain ⟨tail, rfl⟩ : op <+: op' :=
    List.prefix_of_prefix_length_le (List.prefix_append op rest) hhead hlt.le
  rw [List.prefix_append_right_inj] at hhead
  have hlen := length_of_mem_operators hop
  have hlen' := length_of_mem_operators hop'
  rw [List.length_append] at hlt hlen'
  obtain ⟨c, rfl⟩ := List.length_eq_one_iff.1 (show tail.length = 1 by omega)
  obtain ⟨cs, rfl⟩ := hhead
  exact fun h => h c rfl hop'

theorem prefix_of_find?_operators {text op : List Char}
    (h : operators.find? (·.isPrefixOf text) = some op) : op <+: text := by
  have hfits := List.find?_some h
  exact List.isPrefixOf_iff_prefix.1 hfits

/-- The first operator that fits is the longest one. -/
theorem length_le_of_find?_operators {text op op' : List Char}
    (h : operators.find? (·.isPrefixOf text) = some op) (hop' : op' ∈ operators)
    (hhead : op' <+: text) : op'.length ≤ op.length := by
  obtain ⟨-, before, after, hsplit, hbefore⟩ := List.find?_eq_some_iff_append.1 h
  have hpair := pairwise_operators
  rw [hsplit] at hop' hpair
  rcases List.mem_append.1 hop' with hmem | hmem
  · have hnot := hbefore op' hmem
    rw [List.isPrefixOf_iff_prefix.2 hhead] at hnot
    cases hnot
  · rcases List.mem_cons.1 hmem with rfl | hmem
    · exact Nat.le_refl _
    · exact (List.pairwise_cons.1 (List.pairwise_append.1 hpair).2.1).1 op' hmem

/-- The first operator that fits is the one that the text does not extend. -/
theorem find?_operators_eq_some_iff {text op : List Char} :
    operators.find? (·.isPrefixOf text) = some op ↔
      op ∈ operators ∧ ∃ rest, op ++ rest = text ∧ Unextended op rest := by
  constructor
  · intro h
    obtain ⟨rest, rfl⟩ := prefix_of_find?_operators h
    refine ⟨List.mem_of_find?_eq_some h, rest, rfl, fun c hc hlonger => ?_⟩
    have hhead : op ++ [c] <+: op ++ rest := by
      rw [List.prefix_append_right_inj]
      exact List.singleton_prefix_iff_head?_eq_some.2 hc
    have hle := length_le_of_find?_operators h hlonger hhead
    simp at hle
  · rintro ⟨hop, rest, rfl, hmax⟩
    obtain ⟨op', h⟩ : ∃ op', operators.find? (·.isPrefixOf (op ++ rest)) = some op' := by
      rw [← Option.isSome_iff_exists, List.find?_isSome]
      exact ⟨op, hop, by simp⟩
    have hop' := List.mem_of_find?_eq_some h
    have hhead := prefix_of_find?_operators h
    have hle := length_le_of_find?_operators h hop (List.prefix_append op rest)
    have hge : op'.length ≤ op.length := by
      by_contra hlt
      exact not_unextended_of_prefix hop hop' hhead (Nat.lt_of_not_le hlt) hmax
    have heq : op = op' :=
      (List.prefix_of_prefix_length_le (List.prefix_append op rest) hhead hle).eq_of_length
        (Nat.le_antisymm hle hge)
    rw [heq] at h ⊢
    exact h

/-- A character that is no operator is the beginning of one only if the text extends it. -/
theorem find?_operators_eq_none {c : Char} {rest : List Char} (hc : [c] ∉ operators)
    (hmax : Unextended [c] rest) : operators.find? (·.isPrefixOf (c :: rest)) = none := by
  rw [List.find?_eq_none]
  intro op hop hfits
  obtain ⟨tail, htext⟩ := List.isPrefixOf_iff_prefix.1 hfits
  rcases length_of_mem_operators hop with hlen | hlen
  · obtain ⟨d, rfl⟩ := List.length_eq_one_iff.1 hlen
    obtain ⟨rfl, -⟩ := List.cons.inj htext
    exact hc hop
  · obtain ⟨d, e, rfl⟩ := List.length_eq_two.1 hlen
    obtain ⟨rfl, rfl⟩ := List.cons.inj htext
    exact hmax e rfl hop

/-! ## Lexemes -/

/-- The text spells the token, when `rest` is the text behind it. What a number denotes is left
open. -/
inductive Spells (denotes : Numeral → Token → Prop) : List Char → List Char → Token → Prop
  | word {c : Char} {cs rest : List Char} (start : isWordStart c = true)
      (chars : ∀ d ∈ cs, isWordChar d = true) (max : Stops isWordChar rest) :
      Spells denotes (c :: cs) rest (wordToken (String.ofList (c :: cs)))
  | number {n : Numeral} {rest : List Char} {t : Token} (wellFormed : n.WellFormed)
      (max : n.EndsBefore rest) (denoted : denotes n t) : Spells denotes n.text rest t
  | string {quote : Char} {text value rest : List Char} (isQuote : isQuote quote = true)
      (body : StringText quote text value) :
      Spells denotes (quote :: text) rest ⟨.stringLit, .str (String.ofList value)⟩
  | operator {op rest : List Char} (mem : op ∈ operators) (max : Unextended op rest) :
      Spells denotes op rest ⟨.operator, .str (String.ofList op)⟩
  | punctuation {c : Char} {rest : List Char} {kind : TokenKind}
      (isPunctuation : punctuation? c = some kind) (max : Unextended [c] rest) :
      Spells denotes [c] rest (.bare kind)

theorem Spells.exists_cons {denotes : Numeral → Token → Prop} {text rest : List Char} {t : Token}
    (h : Spells denotes text rest t) : ∃ c cs, text = c :: cs := by
  cases h with
  | word | string | punctuation => exact ⟨_, _, rfl⟩
  | number hwell _ _ =>
    obtain ⟨d, ds, htext, -⟩ := hwell.exists_digit
    exact ⟨d, ds, htext⟩
  | operator hmem _ => exact List.exists_cons_of_ne_nil (ne_nil_of_mem_operators hmem)

theorem isWordChar_of_isWordStart {c : Char} (h : isWordStart c = true) : isWordChar c = true := by
  simp only [isWordStart, isWordChar, Char.isAlphanum, Bool.or_eq_true] at h ⊢
  exact h.imp_left .inl

theorem isWordStart_of_isDigit {c : Char} (h : c.isDigit = true) : isWordStart c = false := by
  simp only [Char.isDigit, Bool.and_eq_true, decide_eq_true_eq, UInt32.le_iff_toNat_le] at h
  have hne : c ≠ '_' := by
    rintro rfl
    revert h
    decide
  simp [isWordStart, Char.isAlpha, Char.isUpper, Char.isLower, UInt32.le_iff_toNat_le, hne] at h ⊢
  omega

theorem eq_or_eq_of_isQuote {c : Char} (h : isQuote c = true) : c = '"' ∨ c = '\'' := by
  simpa [isQuote] using h

theorem isQuote_spec {c : Char} (h : isQuote c = true) :
    isWordStart c = false ∧ c.isDigit = false ∧ c ≠ '\\' := by
  rcases eq_or_eq_of_isQuote h with rfl | rfl <;> decide

/-- The character begins neither a word nor a number nor a string. -/
def IsSign (c : Char) : Prop := isWordStart c = false ∧ c.isDigit = false ∧ isQuote c = false

theorem isSign_of_mem_operators {c : Char} {cs : List Char} (h : c :: cs ∈ operators) :
    IsSign c := by
  have hsigns : ∀ op ∈ operators,
      (op.head?.all fun c => !isWordStart c && !c.isDigit && !isQuote c) = true := by decide
  simpa [IsSign, and_assoc] using hsigns _ h

theorem isSign_of_punctuation {c : Char} {kind : TokenKind} (h : punctuation? c = some kind) :
    IsSign c ∧ [c] ∉ operators := by
  unfold punctuation? at h
  unfold IsSign
  split at h
  case h_8 => cases h
  all_goals decide

/-- A lexeme that is read spells its token. -/
theorem spells_of_readLexeme {c : Char} {cs : List Char} {l : Lexeme}
    (h : readLexeme c cs = .ok l) : Spells Numeral.Denotes l.text l.rest l.token := by
  unfold readLexeme at h
  split at h
  · next hstart =>
    cases h
    have hmax := stops_dropWhile isWordChar (c :: cs)
    rw [List.takeWhile_cons_of_pos (isWordChar_of_isWordStart hstart)]
    exact .word hstart (fun _ => List.mem_takeWhile_imp) hmax
  split at h
  · next hdigit =>
    split at h
    · cases h
    · next n rest hn =>
      obtain ⟨hwell, hmax⟩ := readNumeral_sound hdigit hn
      split at h
      · next t ht =>
        cases h
        exact .number hwell hmax (Numeral.token?_eq_some_iff.1 ht)
      · cases h
  split at h
  · next hquote =>
    split at h
    · next b hb =>
      cases h
      exact .string hquote (stringText_of_readStringBody hb)
    · cases h
  split at h
  · next op hop =>
    cases h
    obtain ⟨hmem, rest, htext, hmax⟩ := find?_operators_eq_some_iff.1 hop
    rw [← htext, List.drop_left]
    exact .operator hmem hmax
  · next hop =>
    split at h
    · next kind hkind =>
      cases h
      refine .punctuation hkind fun d hd hlonger => ?_
      obtain ⟨t, rfl⟩ := List.head?_eq_some_iff.1 hd
      exact List.find?_eq_none.1 hop _ hlonger (by simp)
    · cases h

/-- A lexeme is read up to its end. -/
theorem readLexeme_of_spells {c : Char} {cs text rest : List Char} {t : Token}
    (h : Spells Numeral.Denotes text rest t) (happend : text ++ rest = c :: cs) :
    readLexeme c cs = .ok ⟨t, text, rest⟩ := by
  cases h with
  | @word d ds _ hstart hchars hmax =>
    obtain ⟨htake, hdrop⟩ := takeWhile_dropWhile_append
      (List.forall_mem_cons.2 ⟨isWordChar_of_isWordStart hstart, hchars⟩) hmax
    rw [happend] at htake hdrop
    obtain ⟨rfl, -⟩ := List.cons.inj happend
    simp only [readLexeme, hstart, if_true, htake, hdrop]
  | @number n _ _ hwell hmax hdenoted =>
    have hc : c.isDigit = true := by
      obtain ⟨d, ds, htext, hd⟩ := hwell.exists_digit
      rw [htext] at happend
      obtain ⟨rfl, -⟩ := List.cons.inj happend
      exact hd
    have hread := (readNumeral_eq_ok_iff hc).2 ⟨happend, hwell, hmax⟩
    have htoken := Numeral.token?_eq_some_iff.2 hdenoted
    simp [readLexeme, isWordStart_of_isDigit hc, hc, hread, htoken]
  | string hquote hbody =>
    obtain ⟨hstart, hdigit, hne⟩ := isQuote_spec hquote
    obtain ⟨rfl, hcs⟩ := List.cons.inj happend
    have hread := readStringBody_text_append hne hbody rest
    rw [show _ ++ rest = cs from hcs] at hread
    simp [readLexeme, hstart, hdigit, hquote, hread]
  | operator hmem hmax =>
    have hfind := find?_operators_eq_some_iff.2 ⟨hmem, rest, happend, hmax⟩
    have hdrop : (c :: cs).drop text.length = rest := by rw [← happend, List.drop_left]
    obtain ⟨d, ds, rfl⟩ := List.exists_cons_of_ne_nil (ne_nil_of_mem_operators hmem)
    obtain ⟨hstart, hdigit, hquote⟩ := isSign_of_mem_operators hmem
    obtain ⟨rfl, -⟩ := List.cons.inj happend
    simp only [readLexeme, hstart, hdigit, hquote, hfind, hdrop, Bool.false_eq_true, if_false]
  | punctuation hkind hmax =>
    obtain ⟨⟨hstart, hdigit, hquote⟩, hnone⟩ := isSign_of_punctuation hkind
    have hfind := find?_operators_eq_none hnone hmax
    obtain ⟨rfl, hcs⟩ := List.cons.inj happend
    rw [show rest = cs from hcs] at hfind ⊢
    simp [readLexeme, hstart, hdigit, hquote, hfind, hkind]

theorem readLexeme_eq_ok_iff {c : Char} {cs : List Char} {l : Lexeme} :
    readLexeme c cs = .ok l ↔
      l.text ++ l.rest = c :: cs ∧ Spells Numeral.Denotes l.text l.rest l.token := by
  constructor
  · intro h
    exact ⟨readLexeme_append h, spells_of_readLexeme h⟩
  · rintro ⟨happend, h⟩
    exact readLexeme_of_spells h happend

end Gridwalk.Script
