import Gridwalk.Board.Coord

/-!
# Grids

A grid is a board with a value in every cell. Its cells are stored row by row, each row from left
to right; this is the raster order.

**Bounds.** The cells of a grid are the coordinates from `(0, 0)` up to but without
`(width, height)`. Asking for any other one is an error that names the coordinate and the size.
-/

namespace Gridwalk

universe u

/-- A board of cells, as wide and high as it says and with at least one cell. -/
structure Grid (α : Type u) where
  width : Nat
  height : Nat
  cells : Array α
  size_cells : cells.size = width * height
  width_pos : 0 < width
  height_pos : 0 < height
  deriving DecidableEq

/-- A coordinate that is no cell of a grid of this size. -/
structure OffGrid where
  coord : Coord
  width : Nat
  height : Nat
  deriving DecidableEq, Repr

def OffGrid.message (e : OffGrid) : String :=
  s!"no cell at {e.coord.text} in a {e.width}x{e.height} grid"

/-- Why there is no grid of this shape. -/
inductive GridError where
  | notPositive (width height : Int)
  | cellCount (expected actual : Nat)
  deriving DecidableEq, Repr

def GridError.message : GridError → String
  | notPositive width height => s!"grid dimensions {width}x{height} must be positive"
  | cellCount expected actual => s!"expected {expected} cells for the grid, got {actual}"

namespace Grid

variable {α : Type u}

/-! ## Construction -/

/-- The grid with the given cells in raster order. -/
def ofCells (width height : Int) (cells : Array α) : Except GridError (Grid α) :=
  if h : 0 < width ∧ 0 < height then
    if hc : cells.size = width.toNat * height.toNat then
      .ok
        { width := width.toNat
          height := height.toNat
          cells
          size_cells := hc
          width_pos := by omega
          height_pos := by omega }
    else .error (.cellCount (width.toNat * height.toNat) cells.size)
  else .error (.notPositive width height)

/-- The grid with the same value in all cells. -/
def fill (width height : Int) (a : α) : Except GridError (Grid α) :=
  if h : 0 < width ∧ 0 < height then
    .ok
      { width := width.toNat
        height := height.toNat
        cells := Array.replicate (width.toNat * height.toNat) a
        size_cells := by simp
        width_pos := by omega
        height_pos := by omega }
  else .error (.notPositive width height)

/-- The grid of the same size with another value in all cells. -/
def const {β : Type u} (g : Grid α) (b : β) : Grid β :=
  { width := g.width
    height := g.height
    cells := Array.replicate (g.width * g.height) b
    size_cells := by simp
    width_pos := g.width_pos
    height_pos := g.height_pos }

/-! ## Cells -/

/-- The number of cells. -/
def size (g : Grid α) : Nat := g.cells.size

/-- The coordinate is a cell of the grid. -/
def Contains (g : Grid α) (c : Coord) : Prop :=
  0 ≤ c.x ∧ 0 ≤ c.y ∧ c.x < g.width ∧ c.y < g.height

instance (g : Grid α) (c : Coord) : Decidable (g.Contains c) :=
  inferInstanceAs (Decidable (_ ∧ _ ∧ _ ∧ _))

/-- The place of a cell in raster order. -/
def offset (g : Grid α) (c : Coord) : Nat := c.y.toNat * g.width + c.x.toNat

theorem offset_lt_size {g : Grid α} {c : Coord} (h : g.Contains c) :
    g.offset c < g.cells.size := by
  obtain ⟨hx, hy, hxw, hyh⟩ := h
  have hx' : c.x.toNat < g.width := by omega
  have hy' : c.y.toNat + 1 ≤ g.height := by omega
  rw [g.size_cells, offset]
  calc c.y.toNat * g.width + c.x.toNat
      < c.y.toNat * g.width + g.width := by omega
    _ = (c.y.toNat + 1) * g.width := by rw [Nat.add_mul, Nat.one_mul]
    _ ≤ g.height * g.width := Nat.mul_le_mul_right _ hy'
    _ = g.width * g.height := Nat.mul_comm _ _

/-- The error about a coordinate that is no cell. -/
def offGrid (g : Grid α) (c : Coord) : OffGrid := ⟨c, g.width, g.height⟩

/-- The place of a cell in raster order, if the coordinate is one. -/
def index (g : Grid α) (c : Coord) : Except OffGrid Nat :=
  if g.Contains c then .ok (g.offset c) else .error (g.offGrid c)

/-- The value of a cell. -/
def get (g : Grid α) (c : Coord) : Except OffGrid α :=
  if h : g.Contains c then
    have := offset_lt_size h
    .ok g.cells[g.offset c]
  else .error (g.offGrid c)

/-- Puts a value into a cell. -/
def set (g : Grid α) (c : Coord) (a : α) : Except OffGrid (Grid α) :=
  if h : g.Contains c then
    .ok { g with
      cells := g.cells.set (g.offset c) a (offset_lt_size h)
      size_cells := by simp [g.size_cells] }
  else .error (g.offGrid c)

/-- Replaces the value of a cell by what a function makes of it. -/
def modify (g : Grid α) (c : Coord) (f : α → α) : Except OffGrid (Grid α) := do
  g.set c (f (← g.get c))

/-! ## All cells -/

/-- The coordinate at a place in raster order. -/
def coordAt (g : Grid α) (i : Nat) : Coord := ⟨(i % g.width : Nat), (i / g.width : Nat)⟩

/-- All cells with their values in raster order. -/
def toList (g : Grid α) : List (Coord × α) :=
  g.cells.toList.zipIdx.map fun (a, i) => (g.coordAt i, a)

/-- The rows from top to bottom. -/
def rows (g : Grid α) : List (List α) :=
  (List.range g.height).map fun y => (g.cells.toList.drop (y * g.width)).take g.width

end Grid

end Gridwalk
