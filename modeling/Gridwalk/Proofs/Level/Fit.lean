import Gridwalk.Proofs.Level.Shape
import Mathlib

/-!
# Which drawings make a level

Two drawings fit together (`Fit`) if all rows of the layout have one length, and directions are
either not given or drawn as just as many rows of this length.

**Theorem (`Level.exact_shape`).** Drawings that fit together make a level of these drawings. Any
other two are refused for the first of these reasons that applies (`Misfit`):

* an uneven row of the layout,
* an uneven row of the directions,
* a difference in size.

An uneven row is the first one that is not as long as the row on top. A level has a board unless it
has no width, and the board shows the two drawings cell by cell (`Level.Shows`): since the drawings
of a level fit together, its tiles are just as many as the board has cells.
-/

namespace Gridwalk

section Rows

variable {α : Type} {rows : List (List α)}

/-! ## Uneven rows -/

/-- Row `i`, which is `found` long, is the first one that is not as long as the row on top. -/
structure FirstUneven (rows : List (List α)) (i found : Nat) : Prop where
  row : ∃ row, rows[i]? = some row ∧ row.length = found
  uneven : found ≠ rowWidth rows
  above : ∀ j < i, ∃ row, rows[j]? = some row ∧ row.length = rowWidth rows

/-- The search of `checkRows` finds the first uneven row. -/
theorem find?_uneven_eq_some_iff {row : List α} {i : Nat} :
    rows.zipIdx.find? (fun (row, _) => row.length != rowWidth rows) = some (row, i) ↔
      rows[i]? = some row ∧ FirstUneven rows i row.length := by
  rw [List.find?_eq_some_iff_getElem]
  constructor
  · rintro ⟨huneven, k, hk, hrow, habove⟩
    rw [List.getElem_zipIdx, Nat.zero_add] at hrow
    cases hrow
    have hi : i < rows.length := by simpa using hk
    refine ⟨List.getElem?_eq_getElem hi, ⟨_, List.getElem?_eq_getElem hi, rfl⟩,
      by simpa using huneven, fun j hj => ?_⟩
    exact ⟨rows[j], List.getElem?_eq_getElem _, by simpa using habove j hj⟩
  · rintro ⟨hrow, -, huneven, habove⟩
    obtain ⟨hi, rfl⟩ := List.getElem?_eq_some_iff.1 hrow
    refine ⟨by simpa using huneven, i, by simpa using hi, by simp, fun j hj => ?_⟩
    simpa [hj.trans hi] using habove j hj

theorem checkRows_of_firstUneven (part : LayoutPart) {i found : Nat}
    (h : FirstUneven rows i found) :
    checkRows part rows = .error (.unevenRow part i (rowWidth rows) found) := by
  obtain ⟨row, hrow, rfl⟩ := h.row
  rw [checkRows, find?_uneven_eq_some_iff.2 ⟨hrow, h⟩]

theorem exists_firstUneven {part : LayoutPart} {e : LayoutError}
    (h : checkRows part rows = .error e) :
    ∃ i found, FirstUneven rows i found ∧ e = .unevenRow part i (rowWidth rows) found := by
  unfold checkRows at h
  split at h
  · cases h
  · next row i hfind =>
    cases h
    exact ⟨i, row.length, (find?_uneven_eq_some_iff.1 hfind).2, rfl⟩

/-! ## Lengths -/

theorem rowWidth_eq_head? (rows : List (List α)) :
    rowWidth rows = (rows.map List.length).head?.getD 0 := by
  rw [rowWidth, List.head?_map]

/-- The rows are checked by their lengths only. -/
theorem checkRows_eq_lengths (part : LayoutPart) (rows : List (List α)) :
    checkRows part rows =
      match (rows.map List.length).zipIdx.find? (fun (n, _) => n != rowWidth rows) with
      | none => .ok ()
      | some (n, i) => .error (.unevenRow part i (rowWidth rows) n) := by
  have hfind : (rows.map List.length).zipIdx.find? (fun (n, _) => n != rowWidth rows) =
      (rows.zipIdx.find? fun (row, _) => row.length != rowWidth rows).map
        (Prod.map List.length id) := by
    rw [List.zipIdx_map, List.find?_map]
    rfl
  rw [checkRows, hfind]
  cases rows.zipIdx.find? fun (row, _) => row.length != rowWidth rows <;> rfl

end Rows

/-! ## Two drawings -/

/-- The two drawings fit together. A layout without rows has the width zero. -/
def Fit (layout : List (List TileKind)) (directions : List (List Direction)) : Prop :=
  ∃ w, (∀ row ∈ layout, row.length = w) ∧ (layout = [] → w = 0) ∧
    (directions = [] ∨
      directions.length = layout.length ∧ ∀ row ∈ directions, row.length = w)

/-- All rows are as long as the row on top. -/
def EvenRows {α : Type} (rows : List (List α)) : Prop :=
  ∀ row ∈ rows, row.length = rowWidth rows

/-- What is wrong with two drawings that do not fit together. The size is looked at only where all
rows are even, and the rows of the directions only where those of the layout are. -/
inductive Misfit (layout : List (List TileKind)) (directions : List (List Direction)) :
    LayoutError → Prop
  | layoutRow {i found : Nat} (first : FirstUneven layout i found) :
      Misfit layout directions (.unevenRow .tiles i (rowWidth layout) found)
  | directionsRow {i found : Nat} (even : EvenRows layout)
      (first : FirstUneven directions i found) :
      Misfit layout directions (.unevenRow .directions i (rowWidth directions) found)
  | size (even : EvenRows layout) (even' : EvenRows directions) (given : directions ≠ [])
      (differ : rowWidth directions ≠ rowWidth layout ∨ directions.length ≠ layout.length) :
      Misfit layout directions (.sizeMismatch (rowWidth layout) layout.length
        (rowWidth directions) directions.length)

section Drawings

variable {layout : List (List TileKind)} {directions : List (List Direction)} {e : LayoutError}

theorem checkShape_eq_ok_iff_fit :
    checkShape layout directions = .ok () ↔ Fit layout directions := by
  rw [checkShape_eq_ok_iff]
  constructor
  · rintro ⟨heven, hdirections⟩
    refine ⟨rowWidth layout, heven, ?_, hdirections.imp_right And.symm⟩
    rintro rfl
    rfl
  · rintro ⟨w, hlayout, hempty, hdirections⟩
    obtain rfl : w = rowWidth layout := by
      by_cases h : layout = []
      · rw [hempty h, h]
        rfl
      · exact ((forall_length_eq_iff h w).1 hlayout).2.symm
    exact ⟨hlayout, hdirections.imp_right And.symm⟩

theorem checkShape_eq_error_iff :
    checkShape layout directions = .error e ↔ Misfit layout directions e := by
  constructor
  · intro h
    rw [checkShape, check_bind_eq_error_iff] at h
    rcases h with h | ⟨heven, h⟩
    · obtain ⟨i, found, hfirst, rfl⟩ := exists_firstUneven h
      exact .layoutRow hfirst
    rw [checkRows_eq_ok_iff] at heven
    split at h
    · cases h
    next hgiven =>
    rcases check_bind_eq_error_iff.1 h with h | ⟨heven', h⟩
    · obtain ⟨i, found, hfirst, rfl⟩ := exists_firstUneven h
      exact .directionsRow heven hfirst
    rw [checkRows_eq_ok_iff] at heven'
    split at h
    · next hdiffer =>
      cases h
      exact .size heven heven' hgiven hdiffer
    · cases h
  · intro h
    rw [checkShape, check_bind_eq_error_iff]
    cases h with
    | layoutRow hfirst => exact .inl (checkRows_of_firstUneven .tiles hfirst)
    | directionsRow heven hfirst =>
      have hgiven : directions ≠ [] := by
        rintro rfl
        simpa using hfirst.row
      refine .inr ⟨(checkRows_eq_ok_iff _).2 heven, ?_⟩
      rw [if_neg hgiven, check_bind_eq_error_iff]
      exact .inl (checkRows_of_firstUneven .directions hfirst)
    | size heven heven' hgiven hdiffer =>
      refine .inr ⟨(checkRows_eq_ok_iff _).2 heven, ?_⟩
      rw [if_neg hgiven, check_bind_eq_error_iff, if_pos hdiffer]
      exact .inr ⟨(checkRows_eq_ok_iff _).2 heven', rfl⟩

/-- Only the lengths of the rows decide whether two drawings fit together. -/
theorem checkShape_congr {layout' : List (List TileKind)} {directions' : List (List Direction)}
    (hlayout : layout.map List.length = layout'.map List.length)
    (hdirections : directions.map List.length = directions'.map List.length) :
    checkShape layout directions = checkShape layout' directions' := by
  have hheight : layout.length = layout'.length := by simpa using congrArg List.length hlayout
  have hheight' : directions.length = directions'.length := by
    simpa using congrArg List.length hdirections
  have hnone : directions = [] ↔ directions' = [] := by
    rw [← List.length_eq_zero_iff, hheight', List.length_eq_zero_iff]
  simp only [checkShape, checkRows_eq_lengths, rowWidth_eq_head?, hlayout, hdirections, hheight,
    hheight', hnone]

end Drawings

/-! ## Marks of a drawing -/

/-- The mark in column `x` of row `y` of a drawing. -/
def MarkAt {α : Type} (rows : List (List α)) (x y : Nat) (a : α) : Prop :=
  ∃ row, rows[y]? = some row ∧ row[x]? = some a

section Marks

variable {α : Type} {rows : List (List α)} {w x y : Nat} {a : α}

theorem exists_markAt (h : ∀ row ∈ rows, row.length = w) (hx : x < w) (hy : y < rows.length) :
    ∃ a, MarkAt rows x y a := by
  have hrow : rows[y]? = some rows[y] := List.getElem?_eq_getElem hy
  have hlength := h rows[y] (List.getElem_mem hy)
  rw [← hlength] at hx
  exact ⟨rows[y][x], rows[y], hrow, List.getElem?_eq_getElem hx⟩

/-- The rows one after another hold the mark in column `x` of row `y` behind `y` rows and `x`
marks. -/
theorem getElem?_flatten_of_markAt (h : ∀ row ∈ rows, row.length = w) (hmark : MarkAt rows x y a) :
    rows.flatten[y * w + x]? = some a := by
  obtain ⟨row, hrow, hx⟩ := hmark
  induction rows generalizing y with
  | nil => simp at hrow
  | cons row' rows ih =>
    obtain ⟨hlength, hrows⟩ := List.forall_mem_cons.1 h
    rw [List.flatten_cons]
    cases y with
    | zero =>
      obtain rfl : row' = row := by simpa using hrow
      rw [Nat.zero_mul, Nat.zero_add, List.getElem?_append_left (List.getElem?_eq_some_iff.1 hx).1]
      exact hx
    | succ y =>
      have hskip : (y + 1) * w + x = row'.length + (y * w + x) := by
        rw [hlength, Nat.succ_mul]
        omega
      rw [hskip, List.getElem?_append_right (Nat.le_add_right _ _), Nat.add_sub_cancel_left]
      exact ih hrows (by simpa using hrow)

end Marks

namespace Level

variable {l : Level} {name : String} {script : Option Path} {layout : List (List TileKind)}
  {directions : List (List Direction)} {e : LayoutError} {x y : Nat}

theorem parts_of_ofParts (h : ofParts name script layout directions = .ok l) :
    l.name = name ∧ l.script = script ∧ l.layout = layout ∧ l.directions = directions := by
  unfold ofParts at h
  split at h <;> cases h
  exact ⟨rfl, rfl, rfl, rfl⟩

theorem ofParts_eq_error_iff :
    ofParts name script layout directions = .error e ↔ Misfit layout directions e := by
  rw [← checkShape_eq_error_iff]
  unfold ofParts
  split
  · next hshape => simp [hshape]
  · next e' hshape => simp [hshape]

theorem exists_ofParts_iff :
    (∃ l, ofParts name script layout directions = .ok l) ↔ Fit layout directions := by
  rw [← checkShape_eq_ok_iff_fit]
  constructor
  · rintro ⟨l, hl⟩
    obtain ⟨-, -, rfl, rfl⟩ := parts_of_ofParts hl
    exact l.shaped
  · intro h
    obtain ⟨l, hl, -⟩ := exists_ofParts h name script
    exact ⟨l, hl⟩

/-! ## Boards -/

/-- A cell faces where the directions say, or to the right if there are none. -/
def Faces (l : Level) (x y : Nat) (d : Direction) : Prop :=
  l.directions = [] ∧ d = .right ∨ MarkAt l.directions x y d

/-- The board shows the drawings of the level, cell by cell. -/
structure Shows (l : Level) (g : Grid Tile) : Prop where
  width : g.width = l.width
  height : g.height = l.height
  cell : ∀ x < l.width, ∀ y < l.height, ∃ kind facing,
    MarkAt l.layout x y kind ∧ l.Faces x y facing ∧ g.get ⟨x, y⟩ = .ok ⟨kind, facing⟩

theorem faces_facingAt (hx : x < l.width) (hy : y < l.height) : l.Faces x y (l.facingAt x y) := by
  rcases (checkShape_eq_ok_iff.1 l.shaped).2 with hnone | ⟨heven, hheight⟩
  · exact .inl ⟨hnone, by simp [facingAt, hnone]⟩
  · have hy' : y < l.directions.length := hy.trans_eq hheight.symm
    obtain ⟨d, row, hrow, hd⟩ := exists_markAt heven hx hy'
    have hfacing : l.facingAt x y = d := by simp [facingAt, hrow, hd]
    exact .inr ⟨row, hrow, hfacing ▸ hd⟩

theorem getElem?_tiles {kind : TileKind} (h : MarkAt l.layout x y kind) :
    l.tiles[y * l.width + x]? = some ⟨kind, l.facingAt x y⟩ := by
  obtain ⟨row, hrow, hkind⟩ := h
  rw [tiles, List.flatMap_def]
  apply getElem?_flatten_of_markAt
  · intro r hr
    obtain ⟨⟨row', y'⟩, hmem, rfl⟩ := List.mem_map.1 hr
    rw [List.length_map, List.length_zipIdx]
    exact length_of_mem_layout (List.mem_of_getElem? (List.mem_zipIdx_iff_getElem?.1 hmem))
  · refine ⟨row.zipIdx.map fun cell => ⟨cell.1, l.facingAt cell.2 y⟩, ?_, by simp [hkind]⟩
    simp [hrow]

/-- The tiles of a level with a width are the cells of a board that shows the level. -/
theorem exists_shows (h : l.width ≠ 0) :
    ∃ g, Grid.ofCells l.width l.height l.tiles.toArray = .ok g ∧ l.initialGrid = some g ∧
      l.Shows g := by
  obtain ⟨g, hg, hwidth, hheight, hcells⟩ := exists_initialGrid h
  refine ⟨g, ?_, hg, hwidth, hheight, fun x hx y hy => ?_⟩
  · rw [Grid.ofCells_eq_ok_iff, hwidth, hheight, ← hcells]
    exact ⟨rfl, rfl, rfl⟩
  · obtain ⟨kind, hkind⟩ := exists_markAt (fun _ => length_of_mem_layout) hx hy
    refine ⟨kind, l.facingAt x y, hkind, faces_facingAt hx hy, Grid.get_eq_ok_iff.2 ⟨?_, ?_⟩⟩
    · rw [Grid.Contains, hwidth, hheight]
      exact ⟨Int.natCast_nonneg x, Int.natCast_nonneg y, Int.ofNat_lt.2 hx, Int.ofNat_lt.2 hy⟩
    · rw [← Array.getElem?_toList, hcells, Grid.offset, hwidth]
      exact getElem?_tiles hkind

/-- **Exact shapes.** Two drawings make a level of them if and only if they fit together, and
otherwise are refused for the first reason that applies. A level has no board if and only if it has
no width; otherwise its tiles are the cells of a board that shows it. -/
theorem exact_shape :
    (∀ name script layout directions,
      ((∃ l, ofParts name script layout directions = .ok l) ↔ Fit layout directions) ∧
      (∀ l, ofParts name script layout directions = .ok l →
        l.name = name ∧ l.script = script ∧ l.layout = layout ∧ l.directions = directions) ∧
      ∀ e, ofParts name script layout directions = .error e ↔ Misfit layout directions e) ∧
    ∀ l : Level, (l.initialGrid = none ↔ l.width = 0) ∧
      (l.width ≠ 0 → ∃ g, Grid.ofCells l.width l.height l.tiles.toArray = .ok g ∧
        l.initialGrid = some g ∧ l.Shows g) :=
  ⟨fun _ _ _ _ => ⟨exists_ofParts_iff, fun _ => parts_of_ofParts, fun _ => ofParts_eq_error_iff⟩,
    fun _ => ⟨initialGrid_eq_none_iff, exists_shows⟩⟩

end Level

end Gridwalk
