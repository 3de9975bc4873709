import Gridwalk.Board.Symbols
import Gridwalk.Proofs.Table
import Mathlib

/-!
# The laws of symbols

The marks of a kind are the characters that stand for it. A kind with marks is drawn by the least
of them (`Symbols.isLeast_symbolOf`), because the table lists its characters in ascending order; a
kind without marks is drawn by its letter. So a kind can be read back from what draws it if and only
if it has marks (`Symbols.kindOf?_symbolOf_iff`). Two kinds are drawn alike only where the letter of
one, which has no marks, is the least mark of the other (`Symbols.symbolOf_eq_symbolOf_iff`).
-/

namespace Gridwalk

theorem TileKind.ofLetter?_letter (k : TileKind) : TileKind.ofLetter? k.letter = some k := by
  cases k <;> rfl

theorem TileKind.letter_injective : Function.Injective TileKind.letter := by
  intro k k' h
  rw [← Option.some_inj, ← ofLetter?_letter k, h, ofLetter?_letter]

namespace Symbols

variable {s : Symbols} {k k' : TileKind} {c : Char}

/-- The characters that stand for a kind. -/
def marks (s : Symbols) (k : TileKind) : Set Char := {c | s.kindOf? c = some k}

theorem mem_marks_iff : c ∈ s.marks k ↔ (c, k) ∈ s.table.entries := Table.find?_eq_some_iff

/-- A kind with marks is drawn by the least of them. -/
theorem isLeast_symbolOf (h : (s.marks k).Nonempty) : IsLeast (s.marks k) (s.symbolOf k) := by
  obtain ⟨c, hc⟩ := h
  obtain ⟨e, he⟩ : ∃ e, s.table.entries.find? (fun e => e.2 = k) = some e := by
    rw [← Option.isSome_iff_exists, List.find?_isSome]
    exact ⟨(c, k), mem_marks_iff.1 hc, by simp⟩
  have hsymbol : s.symbolOf k = e.1 := by rw [symbolOf, he]
  obtain ⟨hkind, before, after, hsplit, hbefore⟩ := List.find?_eq_some_iff_append.1 he
  obtain rfl : e.2 = k := by simpa using hkind
  have hsorted := hsplit ▸ s.table.sorted
  have hafter := (List.pairwise_cons.1 (List.pairwise_append.1 hsorted).2.1).1
  rw [hsymbol]
  constructor
  · rw [mem_marks_iff, hsplit]
    exact List.mem_append_right _ List.mem_cons_self
  · intro c' hc'
    rw [mem_marks_iff, hsplit] at hc'
    rcases List.mem_append.1 hc' with hmem | hmem
    · have hother : e.2 ≠ e.2 := by simpa using hbefore _ hmem
      exact absurd rfl hother
    · rcases List.mem_cons.1 hmem with heq | hmem
      · exact (congrArg Prod.fst heq).ge
      · exact (hafter _ hmem).le

theorem symbolOf_eq_letter (h : ¬ (s.marks k).Nonempty) : s.symbolOf k = k.letter := by
  have hnone : s.table.entries.find? (fun e => e.2 = k) = none := by
    rw [List.find?_eq_none]
    rintro ⟨c, k'⟩ hmem
    rw [decide_eq_true_eq]
    rintro rfl
    exact h ⟨c, mem_marks_iff.2 hmem⟩
  rw [symbolOf, hnone]

/-- A kind that has a symbol is drawn by a symbol of it. -/
theorem kindOf?_symbolOf (h : ∃ c, s.kindOf? c = some k) : s.kindOf? (s.symbolOf k) = some k :=
  (isLeast_symbolOf h).1

theorem kindOf?_symbolOf_iff : s.kindOf? (s.symbolOf k) = some k ↔ (s.marks k).Nonempty :=
  ⟨fun h => ⟨_, h⟩, kindOf?_symbolOf⟩

/-- The letter of a kind without marks draws another kind if it is the least mark of that one. -/
theorem symbolOf_eq_symbolOf_iff (hne : k ≠ k') :
    s.symbolOf k = s.symbolOf k' ↔
      ¬ (s.marks k').Nonempty ∧ IsLeast (s.marks k) k'.letter ∨
        ¬ (s.marks k).Nonempty ∧ IsLeast (s.marks k') k.letter := by
  have hleast {k : TileKind} {c : Char} (h : (s.marks k).Nonempty) :
      IsLeast (s.marks k) c ↔ s.symbolOf k = c := by
    refine ⟨(isLeast_symbolOf h).unique, ?_⟩
    rintro rfl
    exact isLeast_symbolOf h
  by_cases h : (s.marks k).Nonempty <;> by_cases h' : (s.marks k').Nonempty
  · have hdistinct : s.symbolOf k ≠ s.symbolOf k' := by
      intro heq
      have hkind := kindOf?_symbolOf h
      rw [heq, kindOf?_symbolOf h'] at hkind
      exact hne (Option.some.inj hkind).symm
    simp [h, h', hdistinct]
  · rw [symbolOf_eq_letter h', hleast h]
    simp [h, h']
  · rw [symbolOf_eq_letter h, hleast h']
    simp [h, h', eq_comm]
  · rw [symbolOf_eq_letter h, symbolOf_eq_letter h']
    have hempty {k : TileKind} {c : Char} (h : ¬ (s.marks k).Nonempty) : ¬ IsLeast (s.marks k) c :=
      fun hleast => h ⟨c, hleast.1⟩
    simp [hempty h, hempty h', TileKind.letter_injective.ne hne]

end Symbols

end Gridwalk
