import Gridwalk.Board.Tile

/-!
# Sprites

The images that a view composes for a tile, and how it turns them. A sprite is drawn facing right.
-/

namespace Gridwalk

/-- The images of a tile, one upon the other. -/
structure Sprite where
  background : Option String
  foreground : Option String
  deriving DecidableEq, Repr

namespace Sprite

/-- What stands on the ground of a cell. -/
def foregroundOf : TileKind → Option String
  | .blocked | .empty => none
  | .player => some "sprites/player.png"
  | .flag => some "sprites/flag.png"
  | .key => some "sprites/key.png"
  | .gate => some "sprites/gate.png"
  | .enemy => some "sprites/enemy.png"

/-- The images of a kind of tile. A blocked cell is left blank. -/
def ofKind (k : TileKind) : Sprite :=
  { background := if k = .blocked then none else some "sprites/tile_background.png"
    foreground := foregroundOf k }

end Sprite

/-- A turn counter-clockwise by a number of quarters. -/
inductive Rotation where
  | none
  | quarter
  | half
  | threeQuarters
  deriving DecidableEq, Repr

namespace Rotation

/-- The turn that makes a sprite face a direction. -/
def ofFacing : Direction → Rotation
  | .right => none
  | .up => quarter
  | .left => half
  | .down => threeQuarters

def degrees : Rotation → Nat
  | none => 0
  | quarter => 90
  | half => 180
  | threeQuarters => 270

def name : Rotation → String
  | none => "None"
  | quarter => "Rotate90"
  | half => "Rotate180"
  | threeQuarters => "Rotate270"

end Rotation

end Gridwalk
