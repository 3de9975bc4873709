import Gridwalk.Proofs.Script.Grammar
import Gridwalk.Proofs.Text.Quoted
import Gridwalk.Script.Listing
import Mathlib

/-!
# Listings of tokens

**Theorem (`listing_tells_tokens`).** The listing of the tokens of a script has one line for each
token, also when it is printed and the lines are told by their breaks. Scripts without doubles that
have the same listing have the same tokens.

The name of its kind begins the text of a token and ends at the first comma or closing bracket. The
kind tells the shape of the value behind it (`Token.Regular`), and values of one shape have
different texts: strings are quoted, and a quoted text can be read back.

Doubles are left out: whether two of them are written alike is no matter of listings.
-/

namespace Gridwalk.Script

open Gridwalk.Text (Unbroken unbroken_append unbroken_of_forall)

/-! ## Kinds and values -/

/-- The constructors of values. -/
inductive Value.Shape where
  | nothing
  | quoted
  | integer
  | double
  | word
  deriving DecidableEq

def Value.shape : Value → Shape
  | none => .nothing
  | str _ => .quoted
  | int _ => .integer
  | float _ => .double
  | ident _ => .word

/-- The shape of the values that tokens of a kind carry. -/
def TokenKind.shape : TokenKind → Value.Shape
  | keyword | reference => .word
  | operator | stringLit => .quoted
  | intLit => .integer
  | floatLit => .double
  | nop | semicolon | indent | deindent | assign | openParen | closeParen | comma => .nothing

theorem TokenKind.eq_floatLit_of_shape {kind : TokenKind} (h : kind.shape = .double) :
    kind = .floatLit := by
  revert h
  cases kind <;> decide

/-- Words are made of the characters of words, and integers are not negative. -/
def Value.Proper : Value → Prop
  | ident s => ∀ c ∈ s.toList, isWordChar c = true
  | int n => 0 ≤ n
  | none | str _ | float _ => True

structure Token.Regular (t : Token) : Prop where
  shape : t.value.shape = t.kind.shape
  proper : t.value.Proper

theorem Token.Regular.shape_ne_double {t : Token} (h : t.Regular) (hfloat : t.kind ≠ .floatLit) :
    t.value.shape ≠ .double := by
  rw [h.shape]
  exact fun hshape => hfloat (TokenKind.eq_floatLit_of_shape hshape)

theorem shape_of_punctuation {c : Char} {kind : TokenKind} (h : punctuation? c = some kind) :
    kind.shape = .nothing := by
  unfold punctuation? at h
  split at h
  case h_8 => cases h
  all_goals
    cases h
    rfl

theorem shape_wordToken (s : String) : (wordToken s).kind.shape = .word := by
  rw [wordToken]
  split <;> rfl

theorem Spells.regular {text rest : List Char} {t : Token}
    (h : Spells Numeral.Denotes text rest t) : t.Regular := by
  cases h with
  | @word c cs _ hstart hchars _ =>
    refine ⟨(shape_wordToken _).symm, ?_⟩
    simpa [wordToken, Value.Proper] using ⟨isWordChar_of_isWordStart hstart, hchars⟩
  | number _ _ hdenoted =>
    cases hdenoted with
    | int _ _ => exact ⟨rfl, Int.natCast_nonneg _⟩
    | float _ => exact ⟨rfl, trivial⟩
  | string _ _ => exact ⟨rfl, trivial⟩
  | operator _ _ => exact ⟨rfl, trivial⟩
  | punctuation hkind _ => exact ⟨(shape_of_punctuation hkind).symm, trivial⟩

theorem Splits.regular {cs : List Char} {ts : List Token} (h : Splits Numeral.Denotes cs ts) :
    ∀ t ∈ ts, t.Regular := by
  induction h with
  | done _ => simp
  | next _ hlexeme _ ih => exact List.forall_mem_cons.2 ⟨hlexeme.regular, ih⟩

/-! ## The text of a value -/

/-- What stands behind the name of the kind in the text of a token. -/
def Value.tail : Value → List Char
  | none => [')']
  | v => ',' :: ' ' :: (v.text.toList ++ [')'])

theorem Value.tail_eq {v : Value} (h : v ≠ none) :
    v.tail = ',' :: ' ' :: (v.text.toList ++ [')']) := by
  cases v with
  | none => exact absurd rfl h
  | str | int | float | ident => rfl

theorem Value.text_eq_of_tail_eq {v w : Value} (hv : v ≠ none) (hw : w ≠ none)
    (h : v.tail = w.tail) : v.text = w.text := by
  rw [tail_eq hv, tail_eq hw] at h
  exact String.toList_inj.1 (List.append_cancel_right (List.cons.inj (List.cons.inj h).2).2)

theorem toString_natCast_injective : Function.Injective fun n : Nat => toString (n : Int) := by
  intro m n h
  have hdigits (n : Nat) : (toString (n : Int)).toList = Nat.toDigits 10 n := by
    have hnat : toString (n : Int) = toString n := rfl
    rw [hnat, Nat.toString_eq_ofList_toDigits, String.toList_ofList]
  have hlists : Nat.toDigits 10 m = Nat.toDigits 10 n := by
    rw [← hdigits m, ← hdigits n]
    exact congrArg String.toList h
  rw [← Nat.ofDigitChars_ten_toDigits (n := m), hlists, Nat.ofDigitChars_ten_toDigits]

/-- Values of one shape are told by what stands behind the name of their kind. -/
theorem Value.eq_of_tail_eq {v w : Value} (hv : v.Proper) (hw : w.Proper)
    (hshape : v.shape = w.shape) (hdouble : v.shape ≠ .double) (h : v.tail = w.tail) : v = w := by
  cases v with
  | none =>
    cases w with
    | none => rfl
    | str | int | float | ident => cases hshape
  | str s =>
    cases w with
    | str t =>
      have htext : String.ofList (Text.quote s.toList) = String.ofList (Text.quote t.toList) :=
        text_eq_of_tail_eq (by simp) (by simp) h
      rw [String.toList_inj.1 (Text.quote_injective (String.ofList_inj.1 htext))]
    | none | int | float | ident => cases hshape
  | int m =>
    cases w with
    | int n =>
      obtain ⟨m, rfl⟩ := Int.eq_ofNat_of_zero_le hv
      obtain ⟨n, rfl⟩ := Int.eq_ofNat_of_zero_le hw
      have htext : toString (m : Int) = toString (n : Int) :=
        text_eq_of_tail_eq (by simp) (by simp) h
      rw [toString_natCast_injective htext]
    | none | str | float | ident => cases hshape
  | float => exact absurd rfl hdouble
  | ident s =>
    cases w with
    | ident t =>
      have htext : s = t := text_eq_of_tail_eq (by simp) (by simp) h
      rw [htext]
    | none | str | int | float => cases hshape

/-! ## The text of a token -/

theorem TokenKind.name_injective : Function.Injective TokenKind.name := by
  intro j k h
  have hfind (k : TokenKind) : ofName? k.name = some k := by cases k <;> rfl
  have hsome := hfind j
  rw [h, hfind k] at hsome
  exact (Option.some.inj hsome).symm

/-- A character of the name of a kind. -/
def isNameChar (c : Char) : Bool := c.isUpper || c == '_'

theorem TokenKind.isNameChar_of_mem_name (kind : TokenKind) :
    ∀ c ∈ kind.name.toList, isNameChar c = true := by
  apply List.all_eq_true.1
  cases kind <;> rfl

theorem Token.toList_text (t : Token) :
    t.text.toList = "Token(".toList ++ (t.kind.name.toList ++ t.value.tail) := by
  obtain ⟨kind, value⟩ := t
  by_cases h : value = .none
  · have htext : (⟨kind, .none⟩ : Token).text = "Token(" ++ kind.name ++ ")" := rfl
    rw [h, htext]
    simp [Value.tail]
  · have htext :
        (⟨kind, value⟩ : Token).text = "Token(" ++ kind.name ++ ", " ++ value.text ++ ")" := by
      cases value with
      | none => exact absurd rfl h
      | str | int | float | ident => rfl
    rw [htext, Value.tail_eq h]
    simp

theorem Value.stops_tail (v : Value) : Stops isNameChar v.tail := by
  cases v <;> exact stops_cons_iff.2 rfl

/-- The text of a token tells its kind and what stands behind the name of the kind. -/
theorem Token.kind_and_tail_of_text_eq {t u : Token} (h : t.text = u.text) :
    t.kind = u.kind ∧ t.value.tail = u.value.tail := by
  have hlists := congrArg String.toList h
  rw [t.toList_text, u.toList_text] at hlists
  have hbehind := List.append_cancel_left hlists
  obtain ⟨htname, httail⟩ :=
    takeWhile_dropWhile_append t.kind.isNameChar_of_mem_name t.value.stops_tail
  obtain ⟨huname, hutail⟩ :=
    takeWhile_dropWhile_append u.kind.isNameChar_of_mem_name u.value.stops_tail
  rw [hbehind, huname] at htname
  rw [hbehind, hutail] at httail
  exact ⟨TokenKind.name_injective (String.toList_inj.1 htname.symm), httail.symm⟩

/-- Regular tokens that are no doubles are told by their texts. -/
theorem Token.Regular.eq_of_text_eq {t u : Token} (ht : t.Regular) (hu : u.Regular)
    (hfloat : t.kind ≠ .floatLit) (h : t.text = u.text) : t = u := by
  obtain ⟨hkind, htail⟩ := kind_and_tail_of_text_eq h
  have hshape : t.value.shape = u.value.shape := by rw [ht.shape, hu.shape, hkind]
  have hvalue := Value.eq_of_tail_eq ht.proper hu.proper hshape (ht.shape_ne_double hfloat) htail
  cases t
  cases u
  exact congrArg₂ Token.mk hkind hvalue

/-! ## Lines -/

theorem unbroken_toString (n : Nat) : Unbroken (toString n).toList := by
  rw [Nat.toString_eq_ofList_toDigits, String.toList_ofList]
  have hdigits : ∀ c ∈ Nat.toDigits 10 n, c.isDigit = true := fun c hc =>
    Nat.isDigit_of_mem_toDigits (by decide) (by decide) hc
  exact unbroken_of_forall hdigits rfl rfl

theorem unbroken_column (n : Nat) : Unbroken (column n).toList := by
  have hspaces (k : Nat) : ∀ c ∈ List.replicate k ' ', (c == ' ') = true := by
    intro c hc
    rw [List.eq_of_mem_replicate hc]
    rfl
  rw [column, String.toList_append, String.toList_ofList]
  exact unbroken_append (unbroken_of_forall (hspaces _) rfl rfl) (unbroken_toString n)

theorem Value.unbroken_text {v : Value} (h : v.Proper) (hdouble : v.shape ≠ .double) :
    Unbroken v.text.toList := by
  cases v with
  | none => decide
  | str s =>
    rw [text, String.toList_ofList]
    exact Text.unbroken_quote s.toList
  | int n =>
    obtain ⟨n, rfl⟩ := Int.eq_ofNat_of_zero_le h
    exact unbroken_toString n
  | float => exact absurd rfl hdouble
  | ident s => exact unbroken_of_forall h rfl rfl

theorem Token.Regular.unbroken_text {t : Token} (h : t.Regular) (hfloat : t.kind ≠ .floatLit) :
    Unbroken t.text.toList := by
  have hname : Unbroken t.kind.name.toList :=
    unbroken_of_forall t.kind.isNameChar_of_mem_name rfl rfl
  have htail : Unbroken t.value.tail := by
    by_cases hnone : t.value = .none
    · rw [hnone]
      decide
    · have hcomma : Unbroken [',', ' '] := by decide
      have hvalue := Value.unbroken_text h.proper (h.shape_ne_double hfloat)
      rw [Value.tail_eq hnone]
      exact unbroken_append hcomma (unbroken_append hvalue (by decide))
  rw [t.toList_text]
  exact unbroken_append (by decide) (unbroken_append hname htail)

/-! ## Listings -/

theorem getElem?_listing (ts : List Token) (i : Nat) :
    (listing ts)[i]? = ts[i]?.map fun t => column i ++ "  " ++ t.text := by
  simp [listing, List.getElem?_zipIdx, Function.comp_def]

theorem eq_of_listing_eq {ts us : List Token}
    (htext : ∀ t ∈ ts, ∀ u ∈ us, t.text = u.text → t = u) (h : listing ts = listing us) :
    ts = us := by
  apply List.ext_getElem?
  intro i
  have hline : (listing ts)[i]? = (listing us)[i]? := by rw [h]
  rw [getElem?_listing, getElem?_listing] at hline
  cases ht : ts[i]? with
  | none =>
    rw [ht] at hline
    exact (Option.map_eq_none_iff.1 hline.symm).symm
  | some t =>
    rw [ht, Option.map_some] at hline
    obtain ⟨u, hu, htu⟩ := Option.map_eq_some_iff.1 hline.symm
    have htexts : u.text = t.text := (String.append_right_inj _).1 htu
    rw [hu, htext t (List.mem_of_getElem? ht) u (List.mem_of_getElem? hu) htexts.symm]

theorem unbroken_of_mem_listing {ts : List Token} (h : ∀ t ∈ ts, Unbroken t.text.toList)
    {line : String} (hline : line ∈ listing ts) : Unbroken line.toList := by
  obtain ⟨i, hi⟩ := List.mem_iff_getElem?.1 hline
  rw [getElem?_listing] at hi
  obtain ⟨t, ht, rfl⟩ := Option.map_eq_some_iff.1 hi
  rw [String.toList_append, String.toList_append]
  have hspaces : Unbroken "  ".toList := by decide
  exact unbroken_append (unbroken_append (unbroken_column i) hspaces)
    (h t (List.mem_of_getElem? ht))

/-- **Listings lose nothing.** Among the tokens of scripts, the text of one that is no double tells
the token, and the listing of such tokens tells all of them. It has one line for each token, and
these are the lines of what is printed, where each is ended by a line feed. -/
theorem listing_tells_tokens {source source' : String} {ts us : List Token}
    (hts : tokenize source = .ok ts) (hus : tokenize source' = .ok us)
    (hfloat : ∀ t ∈ ts, t.kind ≠ .floatLit) :
    (∀ t ∈ ts, ∀ u ∈ us, t.text = u.text → t = u) ∧
      (listing ts = listing us → ts = us) ∧
      (listing ts).length = ts.length ∧ (∀ line ∈ listing ts, Unbroken line.toList) ∧
      Text.lines ((listing ts).flatMap fun line => line.toList ++ ['\n']) =
        (listing ts).map String.toList := by
  have hregular := ((tokenize_iff_splits source ts).1 hts).regular
  have hregular' := ((tokenize_iff_splits source' us).1 hus).regular
  have htext : ∀ t ∈ ts, ∀ u ∈ us, t.text = u.text → t = u := fun t ht u hu =>
    (hregular t ht).eq_of_text_eq (hregular' u hu) (hfloat t ht)
  have hunbroken : ∀ line ∈ listing ts, Unbroken line.toList := fun line =>
    unbroken_of_mem_listing fun t ht => (hregular t ht).unbroken_text (hfloat t ht)
  refine ⟨htext, eq_of_listing_eq htext, ?_, hunbroken, ?_⟩
  · simp [listing]
  · have hrows : ∀ row ∈ (listing ts).map String.toList, Unbroken row := by
      simpa using hunbroken
    rw [← Text.lines_flatMap_newline hrows, List.flatMap_map]

example : listing [⟨.stringLit, .str "\"\n\x7f"⟩, .bare .semicolon] =
    ["   0  Token(STRING_LIT, \"\\\"\\n\\u\x7b7f\x7d\")", "   1  Token(SEMICOLON)"] := by
  cbv

/-- The tokens of an assignment of this string. -/
def assignment (s : String) : List Token :=
  [⟨.reference, .ident "s"⟩, .bare .assign, ⟨.stringLit, .str s⟩]

/-- A line feed and a space without width, and the text by which they are listed. -/
theorem listing_escapes :
    tokenize "s='\n\u200b'" = .ok (assignment "\n\u200b") ∧
      tokenize "s = '\\n\\u\x7b200b\x7d'" = .ok (assignment "\\n\\u\x7b200b\x7d") ∧
      (∀ t ∈ assignment "\n\u200b", ∀ u ∈ assignment "\\n\\u\x7b200b\x7d",
        t.text = u.text → t = u) ∧
      (listing (assignment "\n\u200b") = listing (assignment "\\n\\u\x7b200b\x7d") →
        assignment "\n\u200b" = assignment "\\n\\u\x7b200b\x7d") ∧
      (listing (assignment "\n\u200b")).length = (assignment "\n\u200b").length ∧
      (∀ line ∈ listing (assignment "\n\u200b"), Unbroken line.toList) ∧
      Text.lines ((listing (assignment "\n\u200b")).flatMap fun line => line.toList ++ ['\n']) =
        (listing (assignment "\n\u200b")).map String.toList := by
  have hcharacters : tokenize "s='\n\u200b'" = .ok (assignment "\n\u200b") := by cbv
  have hescapes :
      tokenize "s = '\\n\\u\x7b200b\x7d'" = .ok (assignment "\\n\\u\x7b200b\x7d") := by cbv
  have hfloat : ∀ t ∈ assignment "\n\u200b", t.kind ≠ .floatLit := by simp [assignment, Token.bare]
  exact ⟨hcharacters, hescapes, listing_tells_tokens hcharacters hescapes hfloat⟩

end Gridwalk.Script
