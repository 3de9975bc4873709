import Gridwalk.Proofs.Text.Lines
import Gridwalk.Text.Quoted
import Mathlib

/-!
# Reading quoted texts

A quoted text is one line (`unbroken_quote`), and no two texts are quoted alike (`quote_injective`).

A reader shows the second. The written form of a character tells which character it is and where it
ends (`readQuotedChar_append`): a code ends at its closing brace, which is no hexadecimal digit, a
named character is two signs long, and every other character stands for itself. No character is
written so that it begins with a bare double quote, so the closing quote cannot be taken for one.
-/

namespace Gridwalk.Text

/-! ## Hexadecimal codes -/

def hexDigit (c : Char) : Nat :=
  if c.isDigit then c.toNat - '0'.toNat else c.toNat - 'a'.toNat + 10

/-- The number with these hexadecimal digits. -/
def hexNumber (ds : List Char) : Nat := ds.foldl (fun n d => 16 * n + hexDigit d) 0

theorem hexDigit_digitChar : ∀ d < 16, hexDigit (Nat.digitChar d) = d := by decide

theorem hexNumber_toDigits (n : Nat) : hexNumber (Nat.toDigits 16 n) = n := by
  induction n using Nat.strong_induction_on with
  | _ n ih =>
    rcases Nat.lt_or_ge n 16 with hlt | hge
    · rw [Nat.toDigits_of_lt_base hlt, hexNumber, List.foldl_cons, List.foldl_nil,
        hexDigit_digitChar n hlt, Nat.mul_zero, Nat.zero_add]
    · have hlast := hexDigit_digitChar (n % 16) (Nat.mod_lt n (by decide))
      have hfront := ih (n / 16) (by omega)
      rw [hexNumber] at hfront
      rw [Nat.toDigits_of_base_le (by decide) hge, hexNumber, List.foldl_append, hfront,
        List.foldl_cons, List.foldl_nil, hlast]
      exact Nat.div_add_mod n 16

theorem exists_digitChar_of_mem_toDigits {n : Nat} {c : Char} (h : c ∈ Nat.toDigits 16 n) :
    ∃ d < 16, c = Nat.digitChar d := by
  induction n using Nat.strong_induction_on with
  | _ n ih =>
    rcases Nat.lt_or_ge n 16 with hlt | hge
    · rw [Nat.toDigits_of_lt_base hlt, List.mem_singleton] at h
      exact ⟨n, hlt, h⟩
    · rw [Nat.toDigits_of_base_le (by decide) hge, List.mem_append, List.mem_singleton] at h
      rcases h with h | h
      · exact ih (n / 16) (by omega) h
      · exact ⟨n % 16, Nat.mod_lt n (by decide), h⟩

/-- Hexadecimal digits neither close a code nor break a line. -/
theorem ne_of_mem_toDigits {n : Nat} {c : Char} (h : c ∈ Nat.toDigits 16 n) :
    c ≠ '}' ∧ c ≠ '\n' ∧ c ≠ '\r' := by
  have hdigits : ∀ d < 16, Nat.digitChar d ≠ '}' ∧ Nat.digitChar d ≠ '\n' ∧
      Nat.digitChar d ≠ '\r' := by decide
  obtain ⟨d, hd, rfl⟩ := exists_digitChar_of_mem_toDigits h
  exact hdigits d hd

/-! ## Characters -/

/-- The characters that are written by a sign, each with its sign. -/
def signs : List (Char × Char) :=
  [('\x00', '0'), ('\t', 't'), ('\r', 'r'), ('\n', 'n'), ('"', '"'), ('\\', '\\')]

/-- The written forms of a character. -/
inductive WrittenChar (c : Char) : List Char → Prop
  | sign {s : Char} (mem : (c, s) ∈ signs) : WrittenChar c ['\\', s]
  | code : WrittenChar c ('\\' :: 'u' :: '{' :: (Nat.toDigits 16 c.toNat ++ ['}']))
  | plain (not_quote : c ≠ '"') (not_backslash : c ≠ '\\') (not_feed : c ≠ '\n')
      (not_return : c ≠ '\r') : WrittenChar c [c]

theorem writtenChar_quoteChar (c : Char) : WrittenChar c (quoteChar c) := by
  unfold quoteChar
  split
  case h_7 hreturn hfeed hquote hbackslash =>
    split
    · exact .code
    · exact .plain hquote hbackslash hfeed hreturn
  all_goals exact .sign (by decide)

/-- The character that a sign behind a backslash stands for. -/
def ofSign : Char → Char
  | '0' => '\x00'
  | 't' => '\t'
  | 'r' => '\r'
  | 'n' => '\n'
  | c => c

/-- The character whose written form begins the text, and the text behind it. -/
def readQuotedChar : List Char → Option (Char × List Char)
  | [] => none
  | '"' :: _ => none
  | '\\' :: 'u' :: '{' :: cs =>
    some (Char.ofNat (hexNumber (cs.takeWhile (· != '}'))), (cs.dropWhile (· != '}')).tail)
  | '\\' :: s :: cs => some (ofSign s, cs)
  | c :: cs => some (c, cs)

theorem WrittenChar.readQuotedChar_append {c : Char} {text : List Char} (h : WrittenChar c text)
    (rest : List Char) : readQuotedChar (text ++ rest) = some (c, rest) := by
  cases h with
  | @sign s hmem =>
    simp only [signs, List.mem_cons, Prod.mk.injEq, List.not_mem_nil, or_false] at hmem
    rcases hmem with ⟨rfl, rfl⟩ | ⟨rfl, rfl⟩ | ⟨rfl, rfl⟩ | ⟨rfl, rfl⟩ | ⟨rfl, rfl⟩ | ⟨rfl, rfl⟩
    all_goals rfl
  | code =>
    have hdigits : ∀ d ∈ Nat.toDigits 16 c.toNat, (d != '}') = true := by
      intro d hd
      simpa using (ne_of_mem_toDigits hd).1
    rw [List.cons_append, List.cons_append, List.cons_append, List.append_assoc, readQuotedChar,
      List.takeWhile_append_of_pos hdigits, List.dropWhile_append_of_pos hdigits]
    simp [hexNumber_toDigits]
  | plain hquote hbackslash _ _ =>
    rw [List.singleton_append, readQuotedChar]
    · exact hquote
    · exact fun _ h => absurd h hbackslash
    · exact fun _ _ h => absurd h hbackslash

theorem WrittenChar.unbroken {c : Char} {text : List Char} (h : WrittenChar c text) :
    Unbroken text := by
  cases h with
  | @sign s hmem =>
    have hsigns : ∀ p ∈ signs, p.2 ≠ '\n' ∧ p.2 ≠ '\r' := by decide
    simpa [Unbroken] using hsigns _ hmem
  | code =>
    have hdigits : Unbroken (Nat.toDigits 16 c.toNat) := fun d hd => (ne_of_mem_toDigits hd).2
    simpa [Unbroken, or_imp, forall_and] using hdigits
  | plain _ _ hfeed hreturn => simpa [Unbroken] using And.intro hfeed hreturn

/-! ## Texts -/

/-- Texts that are written alike up to a closing quote are equal. -/
theorem eq_of_flatMap_quoteChar {cs ds xs ys : List Char}
    (h : cs.flatMap quoteChar ++ '"' :: xs = ds.flatMap quoteChar ++ '"' :: ys) : cs = ds := by
  induction cs generalizing ds with
  | nil =>
    cases ds with
    | nil => rfl
    | cons d ds =>
      have hread := congrArg readQuotedChar h
      rw [List.flatMap_cons, List.append_assoc,
        (writtenChar_quoteChar d).readQuotedChar_append] at hread
      cases hread
  | cons c cs ih =>
    have hread := congrArg readQuotedChar h
    rw [List.flatMap_cons, List.append_assoc,
      (writtenChar_quoteChar c).readQuotedChar_append] at hread
    cases ds with
    | nil => cases hread
    | cons d ds =>
      rw [List.flatMap_cons, List.append_assoc,
        (writtenChar_quoteChar d).readQuotedChar_append, Option.some.injEq, Prod.mk.injEq] at hread
      obtain ⟨rfl, hrest⟩ := hread
      rw [ih hrest]

/-- No two texts are quoted alike. -/
theorem quote_injective : Function.Injective quote := by
  intro cs ds h
  exact eq_of_flatMap_quoteChar (List.cons_eq_cons.1 h).2

/-- A quoted text is one line. -/
theorem unbroken_quote (cs : List Char) : Unbroken (quote cs) := by
  intro c hc
  rw [quote, List.mem_cons, List.mem_append, List.mem_singleton, List.mem_flatMap] at hc
  rcases hc with rfl | ⟨d, -, hc⟩ | rfl
  · decide
  · exact (writtenChar_quoteChar d).unbroken c hc
  · decide

end Gridwalk.Text
