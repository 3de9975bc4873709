import Gridwalk.Proofs.Script.Cut
import Mathlib

/-!
# Failures

A script fails where its first lexeme that cannot be read would begin (`Failure`): the script is
cut there, what stands in front of the cut is a script of its own with the tokens up to the failure,
and what stands behind the cut is faulty.

**Theorem (`tokenize_eq_error_iff`).** A script is refused with an error exactly if it fails in this
way. The kind of the error depends on nothing but the text behind the cut, and its line on nothing
but the line feeds in front of the cut, wherever they stand: between lexemes, in comments or in
strings. No other script is refused.

From where the reader stops, the scanner's own account gives the cut (`exists_cut_of_stop`). The
other way round the reader goes on to the cut (`scan_append`), and there the fault stops it.
-/

namespace Gridwalk.Script

/-- The script fails with the error in front of `rest`, when `front` has given the tokens. -/
structure Failure (source : String) (e : LexError) (front rest : String) (ts : List Token) :
    Prop where
  split : source = front ++ rest
  cut : SplitsBefore rest.toList front.toList ts
  accepted : tokenize front = .ok ts
  tokens : (scanScript source).tokens.map (·.token) = ts
  ne_empty : rest ≠ ""
  no_trivia : Stops startsTrivia rest.toList
  line : e.line = 1 + Text.newlines front.toList
  kind : ∀ fault, Faulty rest.toList fault ↔ fault = e.fault

/-- What is refused fails. -/
theorem exists_failure {source : String} {e : LexError} (h : tokenize source = .error e) :
    ∃ front rest ts, Failure source e front rest ts := by
  obtain ⟨front, rest, hsource, hcut, hstops, hfaulty, hline⟩ :=
    exists_cut_of_stop (tokenize_eq_error_iff_stop.1 h)
  obtain ⟨front, rfl⟩ : ∃ s : String, s.toList = front := ⟨.ofList front, String.toList_ofList⟩
  obtain ⟨rest, rfl⟩ : ∃ s : String, s.toList = rest := ⟨.ofList rest, String.toList_ofList⟩
  refine ⟨front, rest, (scanScript source).tokens.map (·.token), ?_⟩
  constructor
  case split => rw [← String.toList_inj, hsource, String.toList_append]
  case cut => exact hcut
  case accepted => exact hcut.tokenize_eq
  case tokens => rfl
  case ne_empty =>
    rintro rfl
    obtain ⟨c, cs, hnil⟩ := hfaulty.exists_cons
    cases hnil
  case no_trivia => exact hstops
  case line => exact hline
  case kind =>
    intro fault
    constructor
    · intro hfault
      exact hfault.unique hfaulty
    · rintro rfl
      exact hfaulty

/-- What fails is refused. -/
theorem Failure.tokenize_eq {source front rest : String} {e : LexError} {ts : List Token}
    (h : Failure source e front rest ts) : tokenize source = .error e := by
  have hfaulty : Faulty rest.toList e.fault := (h.kind e.fault).2 rfl
  have hscan := scan_faulty h.no_trivia hfaulty (1 + Text.newlines front.toList)
  rw [tokenize_eq_error_iff_stop, h.split, String.toList_append, (scan_append h.cut 1).2, hscan,
    ← h.line]

/-- **The errors of scripts.** A script is refused with an error exactly if it fails with that
error behind the tokens that are read. -/
theorem tokenize_eq_error_iff (source : String) (e : LexError) :
    tokenize source = .error e ↔ ∃ front rest ts, Failure source e front rest ts := by
  constructor
  · exact exists_failure
  · rintro ⟨front, rest, ts, h⟩
    exact h.tokenize_eq

end Gridwalk.Script
