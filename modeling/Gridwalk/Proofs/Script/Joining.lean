import Gridwalk.Proofs.Script.Cut
import Mathlib

/-!
# Joined scripts

Two scripts are joined by a line feed between them.

**Theorem (`tokenize_append_newline`).** If the first script is read, then the joined one has its
tokens and after them those of the second script; an error in the second script is found as many
lines further down as there are lines in front. If the first script is refused, the joined one is
refused with the same error. Only an open string is different, since the second script may close it.

In front of the line feed the joined script is cut, because no lexeme and no comment goes on over a
line feed. A number or an unknown character that is refused at the end of a script is refused in
front of a line feed too (`Faulty.append_newline`).
-/

namespace Gridwalk.Script

/-! ## Reading further down -/

/-- The same error, some lines further down. -/
def LexError.below (lines : Nat) (e : LexError) : LexError := { e with line := e.line + lines }

def Located.below (lines : Nat) (t : Located) : Located := { t with line := t.line + lines }

def Scan.below (lines : Nat) (s : Scan) : Scan :=
  ⟨s.tokens.map (·.below lines), s.stop.map (·.below lines)⟩

/-- The line on which a text begins is only counted. -/
theorem scan_add (line lines : Nat) (cs : List Char) :
    scan (line + lines) cs = (scan line cs).below lines := by
  have hcomm (m n : Nat) : m + lines + n = m + n + lines := Nat.add_right_comm m lines n
  induction line, cs using scan.induct with
  | case1 line cs w hspan =>
    rw [scan_eq, scan_eq line, hspan]
    rfl
  | case2 line cs w c rest hspan fault hread =>
    rw [scan_eq, scan_eq line, hspan]
    simp only [hread, hcomm]
    rfl
  | case3 line cs w c rest hspan start l hread stop ih =>
    rw [scan_eq, scan_eq line, hspan]
    simp only [hread, hcomm]
    rw [show line + Text.newlines w + Text.newlines l.text + lines = stop + lines from rfl, ih]
    rfl

/-! ## Faults in front of a line feed -/

theorem Malformed.mono {text rest rest' : List Char} (h : Malformed text rest)
    (hrest : EndsLike rest rest') : Malformed text rest' := by
  cases h with
  | exponent hwhole hfraction hbreaks =>
    refine .exponent hwhole hfraction ⟨hbreaks.is_marker, hbreaks.is_sign, ?_, ?_⟩
    · exact fun hsign => (hbreaks.unsigned hsign).mono rfl hrest
    · exact hbreaks.no_digit.mono rfl hrest
  | tooGreat hwhole hmax hgt => exact .tooGreat hwhole (hmax.mono hrest) hgt

/-- A fault stays the same if a line feed is put behind the text, unless a string is open. -/
theorem Faulty.append_newline {cs : List Char} {fault : Fault} (h : Faulty cs fault)
    (hfault : fault ≠ .unterminatedString) (tail : List Char) :
    Faulty (cs ++ '\n' :: tail) fault := by
  cases h with
  | @unknown c cs hlexeme hsign hoperator =>
    refine .unknown hlexeme hsign fun hhead => ?_
    rcases endsLike_append_newline (c :: cs) tail _ hhead with hnewline | hhead
    · simp at hnewline
    · exact hoperator hhead
  | @malformed text rest hmalformed =>
    rw [List.append_assoc]
    exact .malformed (hmalformed.mono (endsLike_append_newline rest tail))
  | unclosed => exact absurd rfl hfault

/-! ## Joining -/

/-- Behind a script that is read, the next line is read like the first line of a script. -/
theorem scan_append_newline {cs : List Char} {ts : List Token}
    (h : Splits Numeral.Denotes cs ts) (ds : List Char) :
    (scan 1 (cs ++ '\n' :: ds)).tokens.map (·.token) = ts ++ (scan 1 ds).tokens.map (·.token) ∧
      (scan 1 (cs ++ '\n' :: ds)).stop =
        (scan 1 ds).stop.map (·.below (1 + Text.newlines cs)) := by
  have hcut : SplitsBefore ('\n' :: ds) cs ts :=
    (splits_iff_splitsBefore_nil.1 h).mono (endsLike_append_newline [] ds)
  have hnewline : scan (1 + Text.newlines cs) ('\n' :: ds) =
      (scan 1 ds).below (1 + Text.newlines cs) := by
    have hblank : TriviaBefore ds ['\n'] := .blank rfl .nil
    have hskip := scan_trivia_append hblank (1 + Text.newlines cs)
    rw [← scan_add, Nat.add_comm 1 (1 + Text.newlines cs)]
    exact hskip
  obtain ⟨htokens, hstop⟩ := scan_append hcut 1
  rw [htokens, hstop, hnewline]
  simp [Scan.below, Located.below, Function.comp_def]

theorem toList_append_newline (a b : String) :
    (a ++ "\n" ++ b).toList = a.toList ++ '\n' :: b.toList := by
  rw [String.toList_append, String.toList_append, List.append_assoc]
  rfl

/-- A script that is refused stays refused, whatever the next lines are, unless a string is open. -/
theorem tokenize_append_of_error {a : String} {e : LexError} (h : tokenize a = .error e)
    (hfault : e.fault ≠ .unterminatedString) (b : String) :
    tokenize (a ++ "\n" ++ b) = .error e := by
  obtain ⟨front, rest, hsource, hcut, hstops, hfaulty, hline⟩ :=
    exists_cut_of_stop (tokenize_eq_error_iff_stop.1 h)
  have hcut' := hcut.mono (endsLike_append_newline rest b.toList)
  have hstops' : Stops startsTrivia (rest ++ '\n' :: b.toList) := by
    obtain ⟨c, cs, rfl⟩ := hfaulty.exists_cons
    exact stops_cons_iff.2 (stops_cons_iff.1 hstops)
  have hscan := scan_faulty hstops' (hfaulty.append_newline hfault b.toList)
  rw [tokenize_eq_error_iff_stop, toList_append_newline, hsource, List.append_assoc,
    (scan_append hcut' 1).2, hscan, ← hline]

/-- **Joined scripts are read one after the other.** -/
theorem tokenize_append_newline (a b : String) :
    match tokenize a with
    | .ok ta =>
      tokenize (a ++ "\n" ++ b) =
        match tokenize b with
        | .ok tb => .ok (ta ++ tb)
        | .error e => .error (e.below (1 + Text.newlines a.toList))
    | .error e =>
      e.fault = .unterminatedString ∨ tokenize (a ++ "\n" ++ b) = .error e := by
  cases ha : tokenize a with
  | ok ta =>
    obtain ⟨hend, rfl⟩ := tokenize_eq_ok_iff.1 ha
    obtain ⟨htokens, hstop⟩ := scan_append_newline (splits_of_scan hend) b.toList
    rw [← toList_append_newline] at htokens hstop
    dsimp only
    cases hb : tokenize b with
    | ok tb =>
      obtain ⟨hstop', htokens'⟩ := tokenize_eq_ok_iff.1 hb
      refine tokenize_eq_ok_iff.2 ⟨?_, ?_⟩
      · rw [hstop, hstop']
        rfl
      · rw [htokens, htokens']
    | error e =>
      rw [tokenize_eq_error_iff_stop] at hb ⊢
      rw [hstop, hb]
      rfl
  | error e =>
    dsimp only
    by_cases hfault : e.fault = .unterminatedString
    · exact .inl hfault
    · exact .inr (tokenize_append_of_error ha hfault b)

end Gridwalk.Script
