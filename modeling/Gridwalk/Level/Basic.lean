import Gridwalk.Board.Grid
import Gridwalk.Level.Shape
import Gridwalk.Path

/-!
# Levels

A level has a title, perhaps a script, and the board that a game on it starts from. A level that
could not be loaded is replaced by one without a board, whose title is the complaint.
-/

namespace Gridwalk

/-- A level, whose two drawings fit together. -/
structure Level where
  name : String
  script : Option Path
  layout : List (List TileKind)
  directions : List (List Direction)
  shaped : checkShape layout directions = .ok () := by rfl
  deriving DecidableEq

namespace Level

/-- The level with these parts. -/
def ofParts (name : String) (script : Option Path) (layout : List (List TileKind))
    (directions : List (List Direction)) : Except LayoutError Level :=
  match h : checkShape layout directions with
  | .ok () => .ok { name, script, layout, directions, shaped := h }
  | .error e => .error e

/-- Stands in for a level that could not be loaded. -/
def placeholder (message : String) : Level :=
  { name := message, script := none, layout := [], directions := [] }

def width (l : Level) : Nat := rowWidth l.layout

def height (l : Level) : Nat := l.layout.length

def isEmpty (l : Level) : Bool := l.width == 0

/-- The facing of a cell; where no directions are given it is to the right. -/
def facingAt (l : Level) (x y : Nat) : Direction :=
  ((l.directions[y]?).bind (·[x]?)).getD .right

/-- The tiles of the board in raster order. -/
def tiles (l : Level) : List Tile :=
  l.layout.zipIdx.flatMap fun (row, y) =>
    row.zipIdx.map fun (kind, x) => ⟨kind, l.facingAt x y⟩

/-- The board that a game starts from, if the level has one. -/
def initialGrid (l : Level) : Option (Grid Tile) :=
  if l.isEmpty then none
  else (Grid.ofCells l.width l.height l.tiles.toArray).toOption

end Level

end Gridwalk
