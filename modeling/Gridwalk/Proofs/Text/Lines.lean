import Gridwalk.Proofs.Text.Trimming
import Gridwalk.Text.Lines
import Mathlib

/-!
# Rows of text

What stands before the first line feed is the first line, apart from a carriage return at its end
(`exists_lines_append_newline`). So rows without line feeds that are written one after another,
each ended by either kind of line break, are the lines of the whole up to blanks
(`keptRows_lines`). Where no row holds a carriage return or is empty, they are just the lines
(`lines_intercalate`): an empty last row would not count as a line.

What holds no line break stands in one line, and the number of line feeds in front of it tells in
which one (`exists_getElem?_lines`).
-/

namespace Gridwalk.Text

theorem newlines_append (cs ds : List Char) : newlines (cs ++ ds) = newlines cs + newlines ds :=
  List.count_append

/-! ## Lines -/

theorem lines_cons {c : Char} {cs : List Char} (h : c ≠ '\n')
    (hreturn : ¬ (c = '\r' ∧ cs.head? = some '\n')) :
    lines (c :: cs) =
      match lines cs with
      | [] => [[c]]
      | l :: ls => (c :: l) :: ls := by
  rw [lines]
  exact (if_neg h).trans (if_neg hreturn)

/-- What stands before the first line feed is the first line, apart from a carriage return at its
end. -/
theorem exists_lines_append_newline {row : List Char} (h : '\n' ∉ row) (cs : List Char) :
    ∃ line, lines (row ++ '\n' :: cs) = line :: lines cs ∧
      (row = line ∨ row = line ++ ['\r']) := by
  induction row with
  | nil => exact ⟨[], by simp [lines], .inl rfl⟩
  | cons c row ih =>
    obtain ⟨hc, hrow⟩ := List.ne_and_not_mem_of_not_mem_cons h
    by_cases hreturn : c = '\r' ∧ row = []
    · obtain ⟨rfl, rfl⟩ := hreturn
      exact ⟨[], by simp [lines], .inr rfl⟩
    · have hordinary : ¬ (c = '\r' ∧ (row ++ '\n' :: cs).head? = some '\n') := by
        rintro ⟨rfl, hhead⟩
        cases row with
        | nil => exact hreturn ⟨rfl, rfl⟩
        | cons d row =>
          obtain rfl : d = '\n' := by simpa using hhead
          exact hrow List.mem_cons_self
      obtain ⟨line, hline, hend⟩ := ih hrow
      refine ⟨c :: line, ?_, ?_⟩
      · rw [List.cons_append, lines_cons (Ne.symm hc) hordinary, hline]
      · rcases hend with rfl | rfl
        · exact .inl rfl
        · exact .inr rfl

/-- A text without line feeds is one line, unless it is empty. -/
theorem lines_of_notMem {row : List Char} (h : '\n' ∉ row) (hne : row ≠ []) :
    lines row = [row] := by
  induction row with
  | nil => exact absurd rfl hne
  | cons c row ih =>
    obtain ⟨hc, hrow⟩ := List.ne_and_not_mem_of_not_mem_cons h
    have hordinary : ¬ (c = '\r' ∧ row.head? = some '\n') := fun hreturn =>
      hrow (List.mem_of_head? hreturn.2)
    rw [lines_cons (Ne.symm hc) hordinary]
    cases row with
    | nil => rfl
    | cons d row => rw [ih hrow (by simp)]

/-! ## Rows without carriage returns -/

/-- The text holds no line feed and no carriage return. -/
def Unbroken (cs : List Char) : Prop := ∀ c ∈ cs, c ≠ '\n' ∧ c ≠ '\r'

instance (cs : List Char) : Decidable (Unbroken cs) :=
  List.decidableBAll (fun c => c ≠ '\n' ∧ c ≠ '\r') cs

/-- A text of characters of a class without line breaks. -/
theorem unbroken_of_forall {p : Char → Bool} {cs : List Char} (h : ∀ c ∈ cs, p c = true)
    (hfeed : p '\n' = false) (hreturn : p '\r' = false) : Unbroken cs := by
  intro c hc
  constructor
  · rintro rfl
    exact absurd (h _ hc) (by simp [hfeed])
  · rintro rfl
    exact absurd (h _ hc) (by simp [hreturn])

theorem unbroken_append {cs ds : List Char} (hcs : Unbroken cs) (hds : Unbroken ds) :
    Unbroken (cs ++ ds) := fun c hc => (List.mem_append.1 hc).elim (hcs c) (hds c)

theorem unbroken_of_solid {cs : List Char} (h : Solid cs) : Unbroken cs := by
  have hsolid : ∀ c ∈ cs, (!isBlank c) = true := fun c hc => by rw [h c hc]; rfl
  exact unbroken_of_forall hsolid (by decide) (by decide)

theorem Unbroken.notMem {cs : List Char} (h : Unbroken cs) : '\n' ∉ cs := fun hmem =>
  (h _ hmem).1 rfl

/-- What stands in front of the first line feed is the first line. -/
theorem lines_append_newline {row : List Char} (h : Unbroken row) (cs : List Char) :
    lines (row ++ '\n' :: cs) = row :: lines cs := by
  obtain ⟨line, hline, rfl | rfl⟩ := exists_lines_append_newline h.notMem cs
  · exact hline
  · exact absurd rfl (h '\r' (by simp)).2

/-- Rows that are joined by line feeds are the lines of the whole. -/
theorem lines_intercalate {rows : List (List Char)} (h : ∀ row ∈ rows, Unbroken row ∧ row ≠ []) :
    lines (['\n'].intercalate rows) = rows := by
  induction rows with
  | nil => rfl
  | cons row rows ih =>
    obtain ⟨⟨hrow, hne⟩, hrows⟩ := List.forall_mem_cons.1 h
    cases rows with
    | nil =>
      rw [List.intercalate_singleton]
      exact lines_of_notMem hrow.notMem hne
    | cons row' rows =>
      rw [List.intercalate_cons_cons, List.append_assoc, List.singleton_append,
        lines_append_newline hrow, ih hrows]

/-- Rows that are each ended by a line feed are the lines of the whole. -/
theorem lines_flatMap_newline {rows : List (List Char)} (h : ∀ row ∈ rows, Unbroken row) :
    lines (rows.flatMap (· ++ ['\n'])) = rows := by
  induction rows with
  | nil => rfl
  | cons row rows ih =>
    obtain ⟨hrow, hrows⟩ := List.forall_mem_cons.1 h
    rw [List.flatMap_cons, List.append_assoc, List.singleton_append, lines_append_newline hrow,
      ih hrows]

/-! ## The line of a place -/

/-- The last line of a text as far as it goes: what stands behind the last line feed. -/
def openRow (cs : List Char) : List Char := cs.rtakeWhile (· != '\n')

theorem notMem_openRow (cs : List Char) : '\n' ∉ openRow cs := by
  intro h
  have hne := List.mem_rtakeWhile_imp h
  simp at hne

theorem openRow_cases (cs : List Char) :
    cs = openRow cs ∨ ∃ before, cs = before ++ '\n' :: openRow cs := by
  induction cs using List.reverseRecOn with
  | nil => exact .inl rfl
  | append_singleton cs c ih =>
    by_cases hc : c = '\n'
    · rw [openRow, List.rtakeWhile_concat_neg _ _ _ (by simp [hc]), hc]
      exact .inr ⟨cs, rfl⟩
    · rw [openRow, List.rtakeWhile_concat_pos _ _ _ (by simp [hc]), ← openRow]
      rcases ih with h | ⟨before, h⟩
      · exact .inl (congrArg (· ++ [c]) h)
      · refine .inr ⟨before, ?_⟩
        rw [← List.cons_append, ← List.append_assoc, ← h]

/-- Behind a line feed the lines go on as those of a text of its own. -/
theorem drop_lines_append_newline (before cs : List Char) :
    (lines (before ++ '\n' :: cs)).drop (newlines before + 1) = lines cs := by
  induction before with
  | nil => simp [lines, newlines]
  | cons c before ih =>
    by_cases hc : c = '\n'
    · rw [hc, newlines, List.count_cons_self, ← newlines, List.cons_append, lines, if_pos rfl,
        List.drop_succ_cons, ih]
    rw [newlines, List.count_cons_of_ne hc, ← newlines, List.cons_append]
    by_cases hreturn : c = '\r' ∧ (before ++ '\n' :: cs).head? = some '\n'
    · rw [lines, if_neg hc, if_pos hreturn, ih]
    · rw [lines_cons hc hreturn, ← ih]
      cases lines (before ++ '\n' :: cs) with
      | nil => simp
      | cons l ls => simp

/-- The first line of a text begins it. -/
theorem prefix_of_lines_eq_cons {cs l : List Char} {ls : List (List Char)}
    (h : lines cs = l :: ls) : l <+: cs := by
  induction cs generalizing l ls with
  | nil => cases h
  | cons c cs ih =>
    by_cases hc : c = '\n'
    · rw [lines, if_pos hc] at h
      cases h
      exact List.nil_prefix
    by_cases hreturn : c = '\r' ∧ cs.head? = some '\n'
    · obtain ⟨ds, rfl⟩ := List.head?_eq_some_iff.1 hreturn.2
      rw [lines, if_neg hc, if_pos hreturn, lines, if_pos rfl] at h
      cases h
      exact List.nil_prefix
    · rw [lines_cons hc hreturn] at h
      cases hcs : lines cs with
      | nil =>
        rw [hcs] at h
        cases h
        simp
      | cons l' ls' =>
        rw [hcs] at h
        cases h
        exact List.cons_prefix_cons.2 ⟨rfl, ih hcs⟩

/-- A text without line feeds that does not end in a carriage return begins the first line. -/
theorem exists_lines_append {row : List Char} (h : '\n' ∉ row) (hne : row ≠ [])
    (hlast : row.getLast? ≠ some '\r') (rest : List Char) :
    ∃ behind ls, behind <+: rest ∧ lines (row ++ rest) = (row ++ behind) :: ls := by
  induction row with
  | nil => exact absurd rfl hne
  | cons c row ih =>
    obtain ⟨hc, hrow⟩ := List.ne_and_not_mem_of_not_mem_cons h
    cases row with
    | nil =>
      have hordinary : ¬ (c = '\r' ∧ rest.head? = some '\n') := fun hreturn =>
        hlast (congrArg some hreturn.1)
      rw [List.singleton_append, lines_cons (Ne.symm hc) hordinary]
      cases hrest : lines rest with
      | nil => exact ⟨[], [], List.nil_prefix, rfl⟩
      | cons l ls => exact ⟨l, ls, prefix_of_lines_eq_cons hrest, rfl⟩
    | cons d row =>
      have hordinary : ¬ (c = '\r' ∧ (d :: row ++ rest).head? = some '\n') := by
        intro hreturn
        obtain rfl : d = '\n' := by simpa using hreturn.2
        exact hrow List.mem_cons_self
      obtain ⟨behind, ls, hbehind, hlines⟩ :=
        ih hrow (by simp) (by rwa [List.getLast?_cons_cons] at hlast)
      rw [List.cons_append, lines_cons (Ne.symm hc) hordinary, hlines]
      exact ⟨behind, ls, hbehind, rfl⟩

/-- **The line of a mark.** Something without line breaks stands in one line of the text, behind
what its line holds in front of it. The line feeds in front of it tell which line that is. -/
theorem exists_getElem?_lines {mark : List Char} (h : Unbroken mark) (hne : mark ≠ [])
    (front rest : List Char) :
    ∃ behind, behind <+: rest ∧
      (lines (front ++ (mark ++ rest)))[newlines front]? =
        some (openRow front ++ mark ++ behind) := by
  have hrow : '\n' ∉ openRow front ++ mark := by simp [notMem_openRow, h.notMem]
  have hlast : (openRow front ++ mark).getLast? ≠ some '\r' := by
    rw [List.getLast?_append_of_ne_nil _ hne]
    exact fun hreturn => (h _ (List.mem_of_getLast? hreturn)).2 rfl
  obtain ⟨behind, ls, hbehind, hlines⟩ := exists_lines_append hrow (by simp [hne]) hlast rest
  refine ⟨behind, hbehind, ?_⟩
  have hnone : newlines (openRow front) = 0 := List.count_eq_zero.2 (notMem_openRow front)
  rcases openRow_cases front with hfront | ⟨before, hfront⟩
  · rw [← hfront] at hlines hnone ⊢
    rw [hnone, ← List.append_assoc, hlines]
    rfl
  · have hcount : newlines front = newlines before + 1 := by
      have hfeed : newlines ('\n' :: openRow front) = newlines (openRow front) + 1 :=
        List.count_cons_self
      rw [hfront, newlines_append, hfeed, hnone]
    have hdrop := drop_lines_append_newline before (openRow front ++ (mark ++ rest))
    rw [← List.cons_append, ← List.append_assoc before, ← hfront, ← hcount,
      ← List.append_assoc (openRow front), hlines] at hdrop
    rw [← List.head?_drop, hdrop]
    rfl
/-! ## Rows up to blanks -/

/-- The text holds the rows one after another. Each is ended by a line feed or by a carriage return
and a line feed; only the last one may go without. -/
inductive InLines : List (List Char) → List Char → Prop
  | nil : InLines [] []
  | last (row : List Char) : InLines [row] row
  | feed (row : List Char) {rows : List (List Char)} {text : List Char}
      (rest : InLines rows text) : InLines (row :: rows) (row ++ '\n' :: text)
  | returnFeed (row : List Char) {rows : List (List Char)} {text : List Char}
      (rest : InLines rows text) : InLines (row :: rows) (row ++ '\r' :: '\n' :: text)

/-- The lines of a text are the rows that it holds, up to blanks. -/
theorem keptRows_lines {rows : List (List Char)} {text : List Char} (h : InLines rows text)
    (hrows : ∀ row ∈ rows, '\n' ∉ row) : keptRows (lines text) = keptRows rows := by
  have hreturn : Blanks ['\r'] := by decide
  induction h with
  | nil => rfl
  | last row =>
    by_cases hne : row = []
    · rw [hne]
      rfl
    · rw [lines_of_notMem (hrows row List.mem_cons_self) hne]
  | feed row rest ih =>
    obtain ⟨hrow, hrest⟩ := List.forall_mem_cons.1 hrows
    obtain ⟨line, hline, hend⟩ := exists_lines_append_newline hrow _
    rw [hline]
    refine keptRows_cons_congr ?_ (ih hrest)
    rcases hend with rfl | rfl
    · rfl
    · exact (trim_append_blanks hreturn line).symm
  | returnFeed row rest ih =>
    obtain ⟨hrow, hrest⟩ := List.forall_mem_cons.1 hrows
    have hrow' : '\n' ∉ row ++ ['\r'] := by simpa using hrow
    obtain ⟨line, hline, hend⟩ := exists_lines_append_newline hrow' _
    rw [List.append_assoc, List.singleton_append] at hline
    rw [hline]
    refine keptRows_cons_congr ?_ (ih hrest)
    rw [← trim_append_blanks hreturn row]
    rcases hend with heq | heq
    · rw [heq]
    · rw [List.append_cancel_right heq, trim_append_blanks hreturn]

end Gridwalk.Text
