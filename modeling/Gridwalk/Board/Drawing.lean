import Gridwalk.Board.Grid
import Gridwalk.Board.Symbols

/-!
# Drawing a board

A board is drawn row by row, once with the symbols of its tiles and once with the facings of the
tiles that act.
-/

namespace Gridwalk.Grid

/-- The rows of a board in symbols. -/
def drawing (g : Grid Tile) (symbols : Symbols) : List String :=
  g.rows.map fun row => String.ofList (row.map fun t => symbols.symbolOf t.kind)

/-- The arrow of a tile that acts, and a point for any other. -/
def facingMark (t : Tile) : Char := if t.kind.isActor then t.facing.arrow else '.'

/-- The rows of a board in facings. -/
def facings (g : Grid Tile) : List String :=
  g.rows.map fun row => String.ofList (row.map facingMark)

/-- The number of tiles of a kind. -/
def count (g : Grid Tile) (k : TileKind) : Nat :=
  (g.toList.filter fun (_, t) => t.kind = k).length

end Gridwalk.Grid
