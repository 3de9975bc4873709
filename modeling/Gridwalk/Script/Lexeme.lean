import Gridwalk.Script.Numeral

/-!
# Lexemes

A lexeme is the piece of a script that one token stands for. `readLexeme` reads the lexeme at the
head of a text that begins with no trivia: a word, a number, a string, an operator or a character
of punctuation, in this order, so that `==` is one operator and not two assignments.

**Strings** stand between two equal quotes. Inside, a backslash before that quote or before a
backslash is dropped and the next character is taken as it is; any other backslash stands for
itself.
-/

namespace Gridwalk.Script

/-- Why no token can be read. -/
inductive Fault where
  | unknownToken (c : Char)
  | malformedNumber (text : String)
  | unterminatedString
  deriving DecidableEq, Repr

/-- A token, the text that it was read from, and the text behind it. -/
structure Lexeme where
  token : Token
  text : List Char
  rest : List Char
  deriving DecidableEq, Repr

def isWordStart (c : Char) : Bool := c.isAlpha || c == '_'

def isWordChar (c : Char) : Bool := c.isAlphanum || c == '_'

def isQuote (c : Char) : Bool := c == '"' || c == '\''

/-! ## Strings -/

/-- The inside of a string literal: its value, its text up to the closing quote, and the text
behind that. -/
structure StringBody where
  value : List Char
  text : List Char
  rest : List Char
  deriving DecidableEq, Repr

/-- Puts a character with its spelling in front of the inside of a string. -/
def StringBody.push (c : Char) (spelling : List Char) (b : StringBody) : StringBody :=
  { value := c :: b.value, text := spelling ++ b.text, rest := b.rest }

/-- Reads a string literal behind its opening quote, if it is closed. -/
def readStringBody (quote : Char) : List Char → Option StringBody
  | [] => none
  | [c] => if c = quote then some ⟨[], [c], []⟩ else none
  | c :: d :: cs =>
    if c = '\\' ∧ (d = quote ∨ d = '\\') then (readStringBody quote cs).map (.push d [c, d])
    else if c = quote then some ⟨[], [c], d :: cs⟩
    else (readStringBody quote (d :: cs)).map (.push c [c])

/-! ## One lexeme -/

/-- Reads the lexeme at the head of the text `c :: cs`. -/
def readLexeme (c : Char) (cs : List Char) : Except Fault Lexeme :=
  if isWordStart c then
    let text := (c :: cs).takeWhile isWordChar
    .ok ⟨wordToken (String.ofList text), text, (c :: cs).dropWhile isWordChar⟩
  else if c.isDigit then
    match readNumeral (c :: cs) with
    | .error text => .error (.malformedNumber (String.ofList text))
    | .ok (n, rest) =>
      match n.token? with
      | some token => .ok ⟨token, n.text, rest⟩
      | none => .error (.malformedNumber (String.ofList n.text))
  else if isQuote c then
    match readStringBody c cs with
    | some b => .ok ⟨⟨.stringLit, .str (String.ofList b.value)⟩, c :: b.text, b.rest⟩
    | none => .error .unterminatedString
  else match operators.find? (·.isPrefixOf (c :: cs)) with
    | some op => .ok ⟨⟨.operator, .str (String.ofList op)⟩, op, (c :: cs).drop op.length⟩
    | none =>
      match punctuation? c with
      | some kind => .ok ⟨.bare kind, [c], cs⟩
      | none => .error (.unknownToken c)

/-! ## Nothing is lost -/

theorem readStringBody_append {quote : Char} {cs : List Char} {b : StringBody}
    (h : readStringBody quote cs = some b) : b.text ++ b.rest = cs := by
  fun_induction readStringBody quote cs generalizing b with
  | case1 => simp at h
  | case2 => simp_all; subst h; rfl
  | case3 => simp at h
  | case4 c d cs _ ih =>
    obtain ⟨b', hb, rfl⟩ := Option.map_eq_some_iff.1 h
    simp [StringBody.push, ih hb]
  | case5 => simp_all; subst h; rfl
  | case6 c d cs _ _ ih =>
    obtain ⟨b', hb, rfl⟩ := Option.map_eq_some_iff.1 h
    simp [StringBody.push, ih hb]

/-- The text of a lexeme and the text behind it make up the text that was read. -/
theorem readLexeme_append {c : Char} {cs : List Char} {l : Lexeme}
    (h : readLexeme c cs = .ok l) : l.text ++ l.rest = c :: cs := by
  unfold readLexeme at h
  split at h
  · cases h
    exact List.takeWhile_append_dropWhile
  · split at h
    · split at h
      · simp at h
      · next n rest hn =>
        split at h
        · cases h
          exact readNumeral_append hn
        · simp at h
    · split at h
      · split at h
        · next b hb =>
          cases h
          simp [readStringBody_append hb]
        · simp at h
      · split at h
        · next op hop =>
          cases h
          have hprefix := List.find?_some hop
          rw [List.isPrefixOf_iff_prefix] at hprefix
          obtain ⟨t, ht⟩ := hprefix
          simp [← ht]
        · split at h
          · cases h
            rfl
          · simp at h

theorem ne_nil_of_mem_operators {op : List Char} (h : op ∈ operators) : op ≠ [] := by
  revert op
  decide

/-- A lexeme is not empty. -/
theorem readLexeme_text_ne_nil {c : Char} {cs : List Char} {l : Lexeme}
    (h : readLexeme c cs = .ok l) : l.text ≠ [] := by
  unfold readLexeme at h
  split at h
  · next hc =>
    cases h
    have : isWordChar c = true := by
      simp only [isWordStart, isWordChar, Bool.or_eq_true, Char.isAlphanum] at hc ⊢
      rcases hc with hc | hc <;> simp [hc]
    simp [this]
  · split at h
    · next hd =>
      split at h
      · simp at h
      · next n rest hn =>
        split at h
        · cases h
          unfold readNumeral at hn
          revert hn
          dsimp only
          split
          · intro hn
            simp only [Except.ok.injEq, Prod.mk.injEq] at hn
            obtain ⟨rfl, -⟩ := hn
            simp [Numeral.text, hd]
          · simp
        · simp at h
    · split at h
      · split at h
        · cases h
          simp
        · simp at h
      · split at h
        · next op hop =>
          cases h
          exact ne_nil_of_mem_operators (List.mem_of_find?_eq_some hop)
        · split at h
          · cases h
            simp
          · simp at h

theorem readLexeme_rest_lt {c : Char} {cs : List Char} {l : Lexeme}
    (h : readLexeme c cs = .ok l) : l.rest.length < (c :: cs).length := by
  rw [← readLexeme_append h, List.length_append]
  have := List.length_pos_iff.2 (readLexeme_text_ne_nil h)
  omega

end Gridwalk.Script
