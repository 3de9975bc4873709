import Gridwalk.Board.Tile

/-!
# The shape of a level

The layout of a level is a list of rows of equal length. The directions that go with it are either
not given at all or form rows of the same number and length. `checkShape` finds the first thing
that is wrong with them, in this order: an uneven row of the layout, an uneven row of the
directions, a difference in size.
-/

namespace Gridwalk

/-- The two drawings of a level. -/
inductive LayoutPart where
  | tiles
  | directions
  deriving DecidableEq, Repr

def LayoutPart.name : LayoutPart → String
  | tiles => "layout"
  | directions => "direction layout"

/-- Why two drawings do not make a level. -/
inductive LayoutError where
  | unevenRow (part : LayoutPart) (row expected found : Nat)
  | sizeMismatch (width height directionWidth directionHeight : Nat)
  deriving DecidableEq, Repr

def LayoutError.message : LayoutError → String
  | unevenRow part row expected found =>
    s!"{part.name} row {row} is {found} wide, expected {expected}"
  | sizeMismatch width height directionWidth directionHeight =>
    s!"direction layout is {directionWidth}x{directionHeight} but layout is {width}x{height}"

/-- The length of the first row. -/
def rowWidth {α : Type} (rows : List (List α)) : Nat := (rows.head?.map List.length).getD 0

/-- All rows have the length of the first one. -/
def checkRows {α : Type} (part : LayoutPart) (rows : List (List α)) : Except LayoutError Unit :=
  match rows.zipIdx.find? fun (row, _) => row.length != rowWidth rows with
  | none => .ok ()
  | some (row, i) => .error (.unevenRow part i (rowWidth rows) row.length)

/-- The two drawings of a level fit together. -/
def checkShape (layout : List (List TileKind)) (directions : List (List Direction)) :
    Except LayoutError Unit := do
  checkRows .tiles layout
  if directions = [] then return ()
  checkRows .directions directions
  if rowWidth directions ≠ rowWidth layout ∨ directions.length ≠ layout.length then
    throw (.sizeMismatch (rowWidth layout) layout.length (rowWidth directions) directions.length)

end Gridwalk
