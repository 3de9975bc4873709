import Gridwalk.Text.Blank
import Mathlib

/-!
# Trimming

Blanks at the ends of a text make no difference to what `trim` leaves of it
(`trim_blanks_append`, `trim_append_blanks`), and nothing is left if and only if there is nothing
but blanks (`trim_eq_nil_iff`). A text without blanks is left alone.

Of several rows those are kept that hold something besides blanks, without the blanks at their ends
(`keptRows`).
-/

namespace Gridwalk.Text

variable {cs w : List Char}

/-- The text holds no blank. -/
def Solid (cs : List Char) : Prop := ∀ c ∈ cs, isBlank c = false

theorem dropWhile_isBlank_of_solid (h : Solid cs) : cs.dropWhile isBlank = cs := by
  cases cs with
  | nil => rfl
  | cons c cs => rw [List.dropWhile_cons_of_neg (by simp [h c List.mem_cons_self])]

/-- Trimming leaves a text without blanks as it is. -/
theorem trim_of_solid (h : Solid cs) : trim cs = cs := by
  have hreverse : Solid cs.reverse := fun c hc => h c (List.mem_reverse.1 hc)
  rw [trim, dropWhile_isBlank_of_solid h, dropWhile_isBlank_of_solid hreverse, List.reverse_reverse]

/-- The text holds nothing but blanks. -/
def Blanks (w : List Char) : Prop := ∀ c ∈ w, isBlank c = true

instance (w : List Char) : Decidable (Blanks w) :=
  decidable_of_iff (w.all isBlank = true) List.all_eq_true

theorem trim_blanks_append (h : Blanks w) (cs : List Char) : trim (w ++ cs) = trim cs := by
  rw [trim, List.dropWhile_append_of_pos h, trim]

theorem trim_append_blanks (h : Blanks w) (cs : List Char) : trim (cs ++ w) = trim cs := by
  have hreverse : Blanks w.reverse := fun c hc => h c (List.mem_reverse.1 hc)
  rw [trim, List.dropWhile_append]
  split
  · next hempty =>
    rw [trim, List.isEmpty_iff.1 hempty, List.dropWhile_eq_nil_iff.2 h]
  · rw [List.reverse_append, List.dropWhile_append_of_pos hreverse, trim]

theorem trim_eq_nil_iff : trim cs = [] ↔ Blanks cs := by
  constructor
  · intro h
    rw [trim, List.reverse_eq_nil_iff, List.dropWhile_eq_nil_iff] at h
    -- What is left in front begins with no blank, so nothing is left.
    cases hfront : cs.dropWhile isBlank with
    | nil => exact List.dropWhile_eq_nil_iff.1 hfront
    | cons c front =>
      have hblank := h c (by simp [hfront])
      have hsolid := List.head?_dropWhile_not isBlank cs
      rw [hfront] at hsolid
      simp [hblank] at hsolid
  · intro h
    have htrim := trim_append_blanks h []
    rwa [List.nil_append] at htrim

/-! ## Rows -/

/-- The rows that hold something besides blanks, without the blanks at their ends. -/
def keptRows (rows : List (List Char)) : List (List Char) := (rows.map trim).filter (· ≠ [])

/-- A row counts only by what trimming leaves of it. -/
theorem keptRows_cons_congr {row row' : List Char} {rows rows' : List (List Char)}
    (hrow : trim row = trim row') (hrows : keptRows rows = keptRows rows') :
    keptRows (row :: rows) = keptRows (row' :: rows') := by
  unfold keptRows at hrows ⊢
  rw [List.map_cons, List.map_cons, List.filter_cons, List.filter_cons, hrow, hrows]

theorem keptRows_cons_of_blanks (h : Blanks w) (rows : List (List Char)) :
    keptRows (w :: rows) = keptRows rows := by
  simp [keptRows, trim_eq_nil_iff.2 h]

end Gridwalk.Text
