import Gridwalk.Level.Basic
import Gridwalk.Proofs.Grid
import Gridwalk.Proofs.Outcome
import Mathlib

/-!
# The boards of levels

The two drawings of a level pass `checkShape`. That is: all rows of the layout are equally long,
and directions are either not given at all or have the same number of rows of the same length
(`checkShape_eq_ok_iff`). So the tiles of a level fill a board of its size, and a level has a board
unless it has no width (`Level.exists_initialGrid`).

The tiles of a level whose drawings come from rows of tiles are these rows one after another
(`Level.tiles_eq_flatten`).
-/

namespace Gridwalk

/-! ## Shapes -/

theorem checkRows_eq_ok_iff {α : Type} (part : LayoutPart) {rows : List (List α)} :
    checkRows part rows = .ok () ↔ ∀ row ∈ rows, row.length = rowWidth rows := by
  unfold checkRows
  split
  · next hfind =>
    refine ⟨fun _ row hrow => ?_, fun _ => rfl⟩
    obtain ⟨i, hi⟩ := List.getElem?_of_mem hrow
    simpa using List.find?_eq_none.1 hfind (row, i) (List.mem_zipIdx_iff_getElem?.2 hi)
  · next row i hfind =>
    have hrow := List.mem_zipIdx_iff_getElem?.1 (List.mem_of_find?_eq_some hfind)
    have huneven : row.length ≠ rowWidth rows := by simpa using List.find?_some hfind
    simp only [reduceCtorEq, false_iff]
    exact fun heven => huneven (heven row (List.mem_of_getElem? hrow))

theorem rowWidth_cons {α : Type} (row : List α) (rows : List (List α)) :
    rowWidth (row :: rows) = row.length := rfl

/-- Rows that are equally long have the length of the first one. -/
theorem forall_length_eq_iff {α : Type} {rows : List (List α)} (h : rows ≠ []) (w : Nat) :
    (∀ row ∈ rows, row.length = w) ↔
      (∀ row ∈ rows, row.length = rowWidth rows) ∧ rowWidth rows = w := by
  obtain ⟨row, rows, rfl⟩ := List.exists_cons_of_ne_nil h
  rw [rowWidth_cons]
  constructor
  · intro hall
    have hfirst := hall row List.mem_cons_self
    exact ⟨fun r hr => (hall r hr).trans hfirst.symm, hfirst⟩
  · rintro ⟨heven, rfl⟩
    exact heven

/-- Two drawings fit together if all their rows are equally long and, where directions are given,
there are as many rows in both. -/
theorem checkShape_eq_ok_iff {layout : List (List TileKind)} {directions : List (List Direction)} :
    checkShape layout directions = .ok () ↔
      (∀ row ∈ layout, row.length = rowWidth layout) ∧
        (directions = [] ∨
          (∀ row ∈ directions, row.length = rowWidth layout) ∧
            directions.length = layout.length) := by
  rw [checkShape, check_bind_eq_ok_iff, checkRows_eq_ok_iff]
  by_cases hnone : directions = []
  · simp [hnone, pure, Except.pure]
  rw [if_neg hnone, check_bind_eq_ok_iff, checkRows_eq_ok_iff,
    forall_length_eq_iff hnone (rowWidth layout)]
  by_cases hsize : rowWidth directions = rowWidth layout ∧ directions.length = layout.length
  · simp [hnone, hsize, pure, Except.pure]
  · rw [if_pos (not_and_or.1 hsize)]
    refine and_congr_right fun _ => iff_of_false (fun h => by cases h.2) ?_
    rintro (h | ⟨⟨-, hwidth⟩, hheight⟩)
    · exact hnone h
    · exact hsize ⟨hwidth, hheight⟩

/-! ## Tiles -/

namespace Level

variable {l : Level}

/-- Drawings that fit together are those of a level. -/
theorem exists_ofParts {layout : List (List TileKind)} {directions : List (List Direction)}
    (h : checkShape layout directions = .ok ()) (name : String) (script : Option Path) :
    ∃ l, ofParts name script layout directions = .ok l ∧ l.layout = layout ∧
      l.directions = directions := by
  refine ⟨{ name, script, layout, directions, shaped := h }, ?_, rfl, rfl⟩
  unfold ofParts
  split
  · rfl
  · next e herror =>
    rw [h] at herror
    cases herror

theorem length_of_mem_layout {row : List TileKind} (h : row ∈ l.layout) : row.length = l.width :=
  (checkShape_eq_ok_iff.1 l.shaped).1 row h

theorem length_tiles (l : Level) : l.tiles.length = l.width * l.height := by
  have hrow : ∀ r ∈ l.layout.zipIdx, r.1.length = l.width := by
    rintro ⟨row, y⟩ hr
    exact length_of_mem_layout (List.mem_of_getElem? (List.mem_zipIdx_iff_getElem?.1 hr))
  rw [tiles, List.length_flatMap]
  simp only [List.length_map, List.length_zipIdx]
  rw [List.map_congr_left hrow, List.map_const', List.sum_replicate, List.length_zipIdx,
    smul_eq_mul, Nat.mul_comm]
  rfl

/-- A level with a width has a board, and the tiles of the level are its cells. -/
theorem exists_initialGrid (h : l.width ≠ 0) :
    ∃ g, l.initialGrid = some g ∧ g.width = l.width ∧ g.height = l.height ∧
      g.cells.toList = l.tiles := by
  have hheight : 0 < l.height := by
    rw [height, List.length_pos_iff]
    intro hnil
    exact h (by rw [width, hnil]; rfl)
  let g : Grid Tile :=
    { width := l.width
      height := l.height
      cells := l.tiles.toArray
      size_cells := by rw [List.size_toArray, l.length_tiles]
      width_pos := Nat.pos_of_ne_zero h
      height_pos := hheight }
  have hcells : Grid.ofCells l.width l.height l.tiles.toArray = .ok g :=
    Grid.ofCells_eq_ok_iff.2 ⟨rfl, rfl, rfl⟩
  have hempty : l.isEmpty = false := by simpa [isEmpty] using h
  refine ⟨g, ?_, rfl, rfl, rfl⟩
  simp [initialGrid, hempty, hcells, Except.toOption]

theorem initialGrid_eq_none_iff : l.initialGrid = none ↔ l.width = 0 := by
  constructor
  · intro hnone
    by_contra h
    obtain ⟨g, hg, -⟩ := exists_initialGrid h
    rw [hnone] at hg
    cases hg
  · intro h
    simp [initialGrid, isEmpty, h]

/-- The board of a level is as large as the level, and the tiles of the level are its cells. -/
theorem size_of_initialGrid {g : Grid Tile} (h : l.initialGrid = some g) :
    g.width = l.width ∧ g.height = l.height ∧ g.cells.toList = l.tiles := by
  have hwidth : l.width ≠ 0 := fun hzero => by
    rw [initialGrid_eq_none_iff.2 hzero] at h
    cases h
  obtain ⟨g', hg', hsize⟩ := exists_initialGrid hwidth
  rw [h] at hg'
  cases hg'
  exact hsize

/-- The tiles of a level that is drawn from rows of tiles are these rows one after another. -/
theorem tiles_eq_flatten {rows : List (List Tile)}
    (hlayout : l.layout = rows.map fun row => row.map (·.kind))
    (hdirections : l.directions = rows.map fun row => row.map (·.facing)) :
    l.tiles = rows.flatten := by
  have hrow : ∀ r ∈ rows.zipIdx,
      (r.1.zipIdx.map fun (t, x) => (⟨t.kind, l.facingAt x r.2⟩ : Tile)) = r.1 := by
    rintro ⟨row, y⟩ hr
    have hy : rows[y]? = some row := List.mem_zipIdx_iff_getElem?.1 hr
    have htile : ∀ t ∈ row.zipIdx, (⟨t.1.kind, l.facingAt t.2 y⟩ : Tile) = t.1 := by
      rintro ⟨t, x⟩ ht
      have hx : row[x]? = some t := List.mem_zipIdx_iff_getElem?.1 ht
      simp [facingAt, hdirections, hy, hx]
    exact (List.map_congr_left htile).trans (List.zipIdx_map_fst 0 row)
  calc l.tiles
      = rows.zipIdx.flatMap fun r =>
          r.1.zipIdx.map fun (t, x) => (⟨t.kind, l.facingAt x r.2⟩ : Tile) := by
        rw [tiles, hlayout, List.zipIdx_map, List.flatMap_map]
        simp [List.zipIdx_map, Function.comp_def]
    _ = rows.zipIdx.flatMap Prod.fst := List.flatMap_congr hrow
    _ = rows.flatten := by rw [List.flatMap_def, List.zipIdx_map_fst]

end Level

end Gridwalk
