import Gridwalk.Proofs.Grid.Access
import Gridwalk.Proofs.Grid.Word
import Mathlib

/-!
# Grids stay coherent

**Theorem (`edits_coherent`).** A grid of one value is there exactly for a positive width and
height, and one of given cells exactly if there are also as many of them as it has room for.
Whatever is then written to it, inside or beside the board,

- it keeps its size, and its places, its list of cells and its rows all tell of the same cells
  (`Coherent`), computed without leaving the words of 32 bits if the number of cells fits one;
- a cell holds what the writes to it have made of its first value, in their order.

Everything that `Coherent` says holds of any grid that is small enough (`coherent`), since what a
grid needs for it is part of its type. What remains is to follow the size and the values from one
write (`sameSize_edit`, `get_edit`) to all of them.
-/

namespace Gridwalk

/-! ## Writes -/

/-- A write to a grid: a value put into a cell, or a cell replaced by what a function makes of
its value. The coordinate may be no cell. -/
inductive Edit (α : Type) where
  | set (cell : Coord) (a : α)
  | modify (cell : Coord) (f : α → α)

namespace Edit

variable {α : Type}

def cell : Edit α → Coord
  | set cell _ => cell
  | modify cell _ => cell

/-- The new value of the cell, from its old one. -/
def value : Edit α → α → α
  | set _ a, _ => a
  | modify _ f, a => f a

def run : Edit α → Grid α → Except OffGrid (Grid α)
  | set cell a, g => g.set cell a
  | modify cell f, g => g.modify cell f

/-- What writes one after another make of the value of a cell; only those to this cell count. -/
def valueAt (c : Coord) (es : List (Edit α)) (a : α) : α :=
  es.foldl (fun a e => if c = e.cell then e.value a else a) a

end Edit

namespace Grid

variable {α : Type} {g : Grid α} {c : Coord} {a : α} {e : Edit α}

/-- The grid after a write. One that fails leaves it as it is. -/
def edit (g : Grid α) (e : Edit α) : Grid α :=
  match e.run g with
  | .ok g' => g'
  | .error _ => g

/-- The grid after writes one after another. -/
def edits (g : Grid α) (es : List (Edit α)) : Grid α := es.foldl edit g

/-! ## One write -/

theorem run_of_get (h : g.get e.cell = .ok a) : e.run g = g.set e.cell (e.value a) := by
  cases e with
  | set cell b => rfl
  | modify cell f => exact modify_eq_set h f

theorem set_eq_edit (h : g.get e.cell = .ok a) :
    g.set e.cell (e.value a) = .ok (g.edit e) := by
  obtain ⟨g', hg'⟩ := exists_set (contains_of_get h) (e.value a)
  rw [edit, run_of_get h, hg']

theorem run_of_not_contains (h : ¬ g.Contains e.cell) :
    e.run g = .error (g.offGrid e.cell) := by
  cases e with
  | set cell b => exact dif_neg h
  | modify cell f =>
    have hget : g.get cell = .error (g.offGrid cell) := get_of_not_contains h
    rw [Edit.run, modify, hget]
    rfl

theorem edit_of_not_contains (h : ¬ g.Contains e.cell) : g.edit e = g := by
  rw [edit, run_of_not_contains h]

theorem sameSize_edit (g : Grid α) (e : Edit α) : SameSize (g.edit e) g := by
  by_cases hc : g.Contains e.cell
  · obtain ⟨a, ha⟩ := exists_get hc
    exact sameSize_of_set (set_eq_edit ha)
  · rw [edit_of_not_contains hc]
    exact SameSize.refl g

theorem get_edit (h : g.get c = .ok a) (e : Edit α) :
    (g.edit e).get c = .ok (if c = e.cell then e.value a else a) := by
  by_cases hc : g.Contains e.cell
  · obtain ⟨b, hb⟩ := exists_get hc
    rw [get_of_set (set_eq_edit hb) c]
    split
    · next heq =>
      rw [heq, hb] at h
      rw [Except.ok.inj h]
    · exact h
  · have hne : c ≠ e.cell := fun heq => hc (heq ▸ contains_of_get h)
    rw [edit_of_not_contains hc, if_neg hne, h]

/-! ## Writes one after another -/

theorem sameSize_edits (g : Grid α) (es : List (Edit α)) : SameSize (g.edits es) g := by
  induction es generalizing g with
  | nil => exact SameSize.refl g
  | cons e es ih => exact (ih (g.edit e)).trans (sameSize_edit g e)

theorem get_edits (h : g.get c = .ok a) (es : List (Edit α)) :
    (g.edits es).get c = .ok (Edit.valueAt c es a) := by
  induction es generalizing g a with
  | nil => exact h
  | cons e es ih => exact ih (get_edit h e)

/-! ## Making a grid -/

theorem fill_eq_ofCells (width height : Int) (a : α) :
    fill width height a =
      ofCells width height (Array.replicate (width.toNat * height.toNat) a) := by
  by_cases h : 0 < width ∧ 0 < height
  · simp [fill, ofCells, h]
  · simp only [fill, ofCells, dif_neg h]

theorem exists_ofCells_iff {width height : Int} {cells : Array α} :
    (∃ g, ofCells width height cells = .ok g) ↔
      0 < width ∧ 0 < height ∧ (cells.size : Int) = width * height := by
  constructor
  · rintro ⟨g, hg⟩
    obtain ⟨rfl, rfl, rfl⟩ := ofCells_eq_ok_iff.1 hg
    refine ⟨Int.natCast_pos.2 g.width_pos, Int.natCast_pos.2 g.height_pos, ?_⟩
    rw [g.size_cells, Int.natCast_mul]
  · rintro ⟨hwidth, hheight, hsize⟩
    lift width to ℕ using hwidth.le
    lift height to ℕ using hheight.le
    let g : Grid α :=
      { width, height, cells
        size_cells := by exact_mod_cast hsize
        width_pos := by exact_mod_cast hwidth
        height_pos := by exact_mod_cast hheight }
    exact ⟨g, ofCells_eq_ok_iff.2 ⟨rfl, rfl, rfl⟩⟩

theorem exists_fill_iff {width height : Int} {a : α} :
    (∃ g, fill width height a = .ok g) ↔ 0 < width ∧ 0 < height := by
  rw [fill_eq_ofCells, exists_ofCells_iff]
  constructor
  · rintro ⟨hwidth, hheight, -⟩
    exact ⟨hwidth, hheight⟩
  · rintro ⟨hwidth, hheight⟩
    refine ⟨hwidth, hheight, ?_⟩
    rw [Array.size_replicate, Int.natCast_mul, Int.toNat_of_nonneg hwidth.le,
      Int.toNat_of_nonneg hheight.le]

/-- The grid has been made with this size, of one value or of cells, and these are its values in
raster order. -/
inductive Made (g : Grid α) (width height : Int) : Array α → Prop
  | fill (a : α) (h : fill width height a = .ok g) :
      Made g width height (Array.replicate (width.toNat * height.toNat) a)
  | ofCells (cells : Array α) (h : ofCells width height cells = .ok g) : Made g width height cells

theorem Made.eq {width height : Int} {cells : Array α} (h : g.Made width height cells) :
    (g.width : Int) = width ∧ (g.height : Int) = height ∧ g.cells = cells := by
  cases h with
  | fill a h =>
    rw [fill_eq_ofCells] at h
    exact ofCells_eq_ok_iff.1 h
  | ofCells cells h => exact ofCells_eq_ok_iff.1 h

/-! ## Coherence -/

/-- The ways to the cells of a grid agree. -/
structure Coherent (g : Grid α) : Prop where
  /-- There are as many cells as the board has room for. -/
  size : g.size = g.width * g.height
  /-- The place of a cell is found in words of 32 bits, and a cell is stored there. -/
  located : ∀ c, g.Contains c → g.Locates c
  placed : ∀ c i, g.index c = .ok i ↔ g.Contains c ∧ (i : Int) = c.y * g.width + c.x
  /-- Each number below the number of cells is the place of one coordinate, and no other is. -/
  numbered : ∀ i, i < g.size ↔ ∃! c, g.index c = .ok i
  holds : ∀ c, g.Contains c → ∃ a, g.get c = .ok a
  /-- Outside there is neither a place nor a value. -/
  refused : ∀ c, ¬ g.Contains c →
    g.index c = .error (g.offGrid c) ∧ g.get c = .error (g.offGrid c)
  /-- A write to a cell succeeds and changes nothing else. -/
  written : ∀ e a, g.get e.cell = .ok a →
    e.run g = .ok (g.edit e) ∧ SameSize (g.edit e) g ∧
      ∀ c, (g.edit e).get c = if c = e.cell then .ok (e.value a) else g.get c
  /-- A write outside fails and changes nothing. -/
  unwritten : ∀ e : Edit α, ¬ g.Contains e.cell →
    e.run g = .error (g.offGrid e.cell) ∧ g.edit e = g
  /-- The list has at each place the cell with this place. -/
  listed : ∀ i c a, g.toList[i]? = some (c, a) ↔ g.index c = .ok i ∧ g.get c = .ok a
  once : ∀ c, (g.toList.map Prod.fst).count c = if g.Contains c then 1 else 0
  raster : (g.toList.map Prod.fst).Pairwise Coord.Before
  /-- The rows are the cells cut into pieces of the width. -/
  cut : g.rows = g.cells.toList.toChunks g.width
  rows : g.rows.length = g.height ∧ ∀ row ∈ g.rows, row.length = g.width
  /-- A row holds at each place what the grid holds there, and nothing beyond. -/
  entry : ∀ x y : Nat, g.rows[y]?.bind (·[x]?) = (g.get ⟨x, y⟩).toOption

theorem index_eq_ok_iff {i : Nat} :
    g.index c = .ok i ↔ g.Contains c ∧ (i : Int) = c.y * g.width + c.x := by
  rw [index_eq_ok_iff_offset]
  refine and_congr_right fun hc => ?_
  rw [← offset_eq_of_contains hc, Int.natCast_inj, eq_comm]

/-- A grid whose number of cells fits a word is coherent. -/
theorem coherent (hsize : FitsWord (g.width * g.height)) : g.Coherent where
  size := g.size_cells
  located := fun _ hc => locates hsize hc
  placed := fun _ _ => index_eq_ok_iff
  numbered := fun _ => lt_size_iff_existsUnique_index
  holds := fun _ hc => exists_get hc
  refused := fun _ hc => ⟨index_of_not_contains hc, get_of_not_contains hc⟩
  written := fun e _ ha =>
    ⟨(run_of_get ha).trans (set_eq_edit ha), sameSize_edit g e, get_of_set (set_eq_edit ha)⟩
  unwritten := fun _ hc => ⟨run_of_not_contains hc, edit_of_not_contains hc⟩
  listed := fun _ _ _ => getElem?_toList
  once := g.count_toList
  raster := g.pairwise_toList_before
  cut := g.rows_eq_toChunks
  rows := ⟨g.length_rows, fun _ => length_of_mem_rows⟩
  entry := g.entry_rows

/-- **Grids stay coherent.** -/
theorem edits_coherent {α : Type} (width height : Int) :
    (∀ a : α, (∃ g, fill width height a = .ok g) ↔ 0 < width ∧ 0 < height) ∧
    (∀ cells : Array α, (∃ g, ofCells width height cells = .ok g) ↔
      0 < width ∧ 0 < height ∧ (cells.size : Int) = width * height) ∧
    ∀ (g : Grid α) (cells : Array α), g.Made width height cells → FitsWord (width * height) →
      ∀ es : List (Edit α),
        ((g.edits es).width : Int) = width ∧ ((g.edits es).height : Int) = height ∧
        (g.edits es).Coherent ∧
        ∀ c i, (g.edits es).index c = .ok i →
          ∃ a, cells[i]? = some a ∧ (g.edits es).get c = .ok (Edit.valueAt c es a) := by
  refine ⟨fun _ => exists_fill_iff, fun _ => exists_ofCells_iff, ?_⟩
  intro g cells hmade hfits es
  obtain ⟨rfl, rfl, rfl⟩ := hmade.eq
  have hsame := sameSize_edits g es
  rw [← hsame.width, ← hsame.height] at hfits
  refine ⟨congrArg _ hsame.width, congrArg _ hsame.height, coherent hfits, ?_⟩
  -- The writes keep the size, so a cell has had its place from the start.
  intro c i hindex
  obtain ⟨hc, rfl⟩ := index_eq_ok_iff_offset.1 hindex
  obtain ⟨a, ha⟩ := exists_get (hsame.contains_iff.1 hc)
  refine ⟨a, ?_, get_edits ha es⟩
  rw [hsame.offset_eq]
  exact (get_eq_ok_iff.1 ha).2

/-- Two rows of three numbers. -/
def shelf : Grid Nat := (ofCells 3 2 #[1, 2, 3, 4, 5, 6]).toOption.get (by decide)

/-- Writes to the shelf, one of them to the right of it and one above it. -/
def errands : List (Edit Nat) :=
  [.set ⟨2, 1⟩ 60, .modify ⟨0, 1⟩ (· + 10), .set ⟨3, 0⟩ 7, .modify ⟨2, 1⟩ (· + 1),
    .modify ⟨0, -1⟩ (· + 1)]

theorem shelf_coherent :
    shelf.Made 3 2 #[1, 2, 3, 4, 5, 6] ∧ FitsWord (3 * 2) ∧ (shelf.edits errands).Coherent ∧
      (shelf.edits errands).rows = [[1, 2, 3], [14, 5, 61]] := by
  have hmade : shelf.Made 3 2 #[1, 2, 3, 4, 5, 6] := .ofCells _ rfl
  have hfits : FitsWord (3 * 2) := by constructor <;> decide
  obtain ⟨-, -, hcoherent, -⟩ := (edits_coherent 3 2).2.2 shelf _ hmade hfits errands
  exact ⟨hmade, hfits, hcoherent, by decide⟩

end Grid

end Gridwalk
