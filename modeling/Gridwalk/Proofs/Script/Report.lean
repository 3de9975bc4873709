import Gridwalk.Proofs.Script.Failure
import Gridwalk.Script.Listing
import Mathlib

/-!
# Reports of errors

A report is the message of an error and the line of the script that the error names.

**Theorem (`report_quotes_culprit`).** If a script is refused, the line that the error names is
there, and the report quotes it. In the quoted line stands what the error is about: the character
that begins nothing, the whole malformed number, or the quote that opens the unterminated string. It
stands where the script fails, behind what that line holds in front of the failure.

Whatever an error is about holds no blank (`Faulty.exists_culprit`), so it stands in one line of the
script. The line feeds in front of it tell which line that is, and the scanner has counted
just these.
-/

namespace Gridwalk.Script

open Gridwalk.Text (Solid openRow)

/-! ## Culprits -/

/-- The fault is about this piece of a script. -/
inductive Fault.IsAbout : Fault → List Char → Prop
  | unknownToken (c : Char) : IsAbout (.unknownToken c) [c]
  | malformedNumber (text : String) : IsAbout (.malformedNumber text) text.toList
  | unterminatedString {quote : Char} (isQuote : isQuote quote = true) :
      IsAbout .unterminatedString [quote]

/-- A malformed number is written with digits and five other characters. -/
theorem Malformed.isDigit_or_mem {text rest : List Char} (h : Malformed text rest) {c : Char}
    (hc : c ∈ text) : c.isDigit = true ∨ c ∈ ['.', 'e', 'E', '+', '-'] := by
  cases h with
  | tooGreat hwhole _ _ => exact .inl (hwhole.isDigit c hc)
  | @exponent whole _ fraction marker sign hwhole hfraction hbreaks =>
    rw [List.mem_append, List.mem_append, List.mem_cons] at hc
    rcases hc with (hc | hc) | hc | hc
    · exact .inl (hwhole.isDigit c hc)
    · cases fraction with
      | none => simp [Numeral.fractionText] at hc
      | some ds =>
        rcases List.mem_cons.1 hc with hpoint | hdigit
        · simp [hpoint]
        · exact .inl ((hfraction ds rfl).isDigit c hdigit)
    · rcases hbreaks.is_marker with hmarker | hmarker <;> simp [hc, hmarker]
    · rcases hbreaks.is_sign c (Option.mem_toList.1 hc) with hsign | hsign <;> simp [hsign]

theorem isBlank_of_not_startsTrivia {c : Char} (h : startsTrivia c = false) :
    Text.isBlank c = false := by
  rw [startsTrivia, Bool.or_eq_false_iff] at h
  exact h.1

theorem Malformed.solid {text rest : List Char} (h : Malformed text rest) : Solid text := by
  have hothers : (['.', 'e', 'E', '+', '-'].all fun c => !startsTrivia c) = true := by decide
  intro c hc
  apply isBlank_of_not_startsTrivia
  rcases h.isDigit_or_mem hc with hdigit | hmem
  · exact startsTrivia_of_isWordChar (by simp [isWordChar, Char.isAlphanum, hdigit])
  · simpa using List.all_eq_true.1 hothers c hmem

/-- What a fault is about begins the text where it is found, and holds no blank. -/
theorem Faulty.exists_culprit {cs : List Char} {fault : Fault} (h : Faulty cs fault)
    (hstops : Stops startsTrivia cs) :
    ∃ culprit, fault.IsAbout culprit ∧ culprit <+: cs ∧ Solid culprit ∧ culprit ≠ [] := by
  have hfirst : ∀ c ∈ cs.head?, Solid [c] := by
    intro c hc
    simpa [Solid] using isBlank_of_not_startsTrivia (hstops c hc)
  cases h with
  | @unknown c cs _ _ _ => exact ⟨[c], .unknownToken c, by simp, hfirst c rfl, by simp⟩
  | @malformed text rest hmalformed =>
    refine ⟨text, ?_, List.prefix_append text rest, hmalformed.solid, ?_⟩
    · have habout := Fault.IsAbout.malformedNumber (String.ofList text)
      rwa [String.toList_ofList] at habout
    · obtain ⟨d, ds, htext, -⟩ := hmalformed.exists_digit
      simp [htext]
  | @unclosed quote cs hquote _ =>
    exact ⟨[quote], .unterminatedString hquote, by simp, hfirst quote rfl, by simp⟩

/-! ## Reports -/

/-- The line where a script fails holds what stands there, and all of that line in front of it. -/
theorem Failure.exists_line {source front rest : String} {e : LexError} {ts : List Token}
    (h : Failure source e front rest ts) {culprit : List Char} (hrest : culprit <+: rest.toList)
    (hsolid : Solid culprit) (hne : culprit ≠ []) :
    ∃ line, (Text.lines source.toList)[e.line - 1]? = some line ∧
      openRow front.toList ++ culprit <+: line := by
  obtain ⟨behind, hbehind⟩ := hrest
  obtain ⟨tail, -, hline⟩ :=
    Text.exists_getElem?_lines (Text.unbroken_of_solid hsolid) hne front.toList behind
  refine ⟨_, ?_, List.prefix_append _ tail⟩
  rw [h.split, String.toList_append, h.line, Nat.add_sub_cancel_left, ← hbehind]
  exact hline

/-- **Reports quote the culprit.** If a script is refused, the report of the error is its message
and the line of the script with the number that the error gives, which is there. The script fails
in this line, at what the error is about. -/
theorem report_quotes_culprit {source : String} {e : LexError} (h : tokenize source = .error e) :
    ∃ (front rest : String) (ts : List Token) (culprit line : List Char),
      Failure source e front rest ts ∧ e.fault.IsAbout culprit ∧ culprit <+: rest.toList ∧
      1 ≤ e.line ∧ (Text.lines source.toList)[e.line - 1]? = some line ∧
      openRow front.toList ++ culprit <+: line ∧
      e.report source =
        [e.message,
          String.ofList (List.replicate (4 - (toString e.line).length) ' ') ++ toString e.line ++
            " | " ++ String.ofList line] := by
  obtain ⟨front, rest, ts, hfailure⟩ := exists_failure h
  have hfaulty : Faulty rest.toList e.fault := (hfailure.kind e.fault).2 rfl
  obtain ⟨culprit, habout, hrest, hsolid, hne⟩ := hfaulty.exists_culprit hfailure.no_trivia
  obtain ⟨line, hline, hculprit⟩ := hfailure.exists_line hrest hsolid hne
  refine ⟨front, rest, ts, culprit, line, hfailure, habout, hrest, ?_, hline, hculprit, ?_⟩
  · rw [hfailure.line]
    exact Nat.le_add_right 1 _
  · rw [LexError.report, sourceLine?, hline]
    rfl

example : (⟨.unterminatedString, 2⟩ : LexError).report "x = 1\r\ny = 'it\n" =
    ["line 2: unterminated string literal", "   2 | y = 'it"] := by
  cbv

/-- A string that goes on over a line break, and a malformed number on the last of three lines. -/
def brokenOff : String := "s = 'a\n#';\r\n\tn = 12e+; # $\r\n"

theorem tokenize_brokenOff :
    tokenize brokenOff = .error ⟨.malformedNumber "12e+", 3⟩ := by cbv

theorem report_brokenOff :
    tokenize brokenOff = .error ⟨.malformedNumber "12e+", 3⟩ ∧
    ∃ (front rest : String) (ts : List Token) (culprit line : List Char),
      Failure brokenOff ⟨.malformedNumber "12e+", 3⟩ front rest ts ∧
      (Fault.malformedNumber "12e+").IsAbout culprit ∧ culprit <+: rest.toList ∧
      1 ≤ 3 ∧ (Text.lines brokenOff.toList)[2]? = some line ∧
      openRow front.toList ++ culprit <+: line ∧
      LexError.report brokenOff ⟨.malformedNumber "12e+", 3⟩ =
        ["line 3: malformed number literal '12e+'",
          String.ofList (List.replicate (4 - (toString 3).length) ' ') ++ toString 3 ++
            " | " ++ String.ofList line] :=
  ⟨tokenize_brokenOff, report_quotes_culprit tokenize_brokenOff⟩

end Gridwalk.Script
