import Gridwalk.Board.Direction

/-!
# Coordinates

A coordinate names a cell of a board by its column and its row, counted from the upper left. It
may lie beyond the board.
-/

namespace Gridwalk

structure Coord where
  x : Int
  y : Int
  deriving DecidableEq, Repr, Inhabited

namespace Coord

/-- The neighbour in a direction. -/
def step (c : Coord) (d : Direction) : Coord := ⟨c.x + d.delta.1, c.y + d.delta.2⟩

def text (c : Coord) : String := s!"({c.x}, {c.y})"

end Coord

end Gridwalk
