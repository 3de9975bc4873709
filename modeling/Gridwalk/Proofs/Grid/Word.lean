import Gridwalk.Board.Grid
import Mathlib

/-!
# Places in words of 32 bits

Coordinates and sizes are numbers without bounds here. If the number of cells of a grid fits a
signed word of 32 bits, so does all that is computed on the way from a cell to its place
(`locates`) and to its neighbours (`fitsWord_step`), so that nothing is lost by computing in words.
-/

namespace Gridwalk

/-- The number fits a signed word of 32 bits. -/
def FitsWord (n : Int) : Prop := -2 ^ 31 ≤ n ∧ n < 2 ^ 31

theorem FitsWord.of_le {n m : Int} (hm : FitsWord m) (hn : -1 ≤ n) (hle : n ≤ m) : FitsWord n := by
  unfold FitsWord at *
  omega

namespace Grid

variable {α : Type} {g : Grid α} {c : Coord}

/-- The place of a cell is found without leaving the words of 32 bits, and is that of a cell. -/
structure Locates (g : Grid α) (c : Coord) : Prop where
  row : FitsWord (c.y * g.width)
  place : FitsWord (c.y * g.width + c.x)
  offset_eq : (g.offset c : Int) = c.y * g.width + c.x
  in_range : g.offset c < g.size

theorem offset_eq_of_contains (hc : g.Contains c) : (g.offset c : Int) = c.y * g.width + c.x := by
  obtain ⟨hx, hy, -, -⟩ := hc
  rw [offset, Int.natCast_add, Int.natCast_mul, Int.toNat_of_nonneg hx, Int.toNat_of_nonneg hy]

/-- If the number of cells fits a word, so does all that leads to the place of a cell. -/
theorem locates (hsize : FitsWord (g.width * g.height)) (hc : g.Contains c) : g.Locates c := by
  have hoffset := offset_eq_of_contains hc
  have hrange : g.offset c < g.cells.size := offset_lt_size hc
  have hbound : (g.offset c : Int) < g.width * g.height := by
    rw [g.size_cells] at hrange
    exact_mod_cast hrange
  have hrow : 0 ≤ c.y * g.width := Int.mul_nonneg hc.2.1 (Int.natCast_nonneg _)
  have hx : 0 ≤ c.x := hc.1
  exact ⟨hsize.of_le (by omega) (by omega), hsize.of_le (by omega) (by omega), hoffset, hrange⟩

theorem fitsWord_width (hsize : FitsWord (g.width * g.height)) : FitsWord g.width := by
  have hle : g.width ≤ g.width * g.height := Nat.le_mul_of_pos_right _ g.height_pos
  exact hsize.of_le (by omega) (by exact_mod_cast hle)

theorem fitsWord_height (hsize : FitsWord (g.width * g.height)) : FitsWord g.height := by
  have hle : g.height ≤ g.width * g.height := Nat.le_mul_of_pos_left _ g.width_pos
  exact hsize.of_le (by omega) (by exact_mod_cast hle)

/-- A step from a cell leads at most one beyond the board, which still fits. -/
theorem fitsWord_step (hsize : FitsWord (g.width * g.height)) (hc : g.Contains c) (d : Direction) :
    FitsWord (c.step d).x ∧ FitsWord (c.step d).y := by
  obtain ⟨hx, hy, hxw, hyh⟩ := hc
  have hwidth := fitsWord_width hsize
  have hheight := fitsWord_height hsize
  constructor
  · apply hwidth.of_le
    · cases d <;> simp only [Coord.step, Direction.delta] <;> omega
    · cases d <;> simp only [Coord.step, Direction.delta] <;> omega
  · apply hheight.of_le
    · cases d <;> simp only [Coord.step, Direction.delta] <;> omega
    · cases d <;> simp only [Coord.step, Direction.delta] <;> omega

end Grid

end Gridwalk
