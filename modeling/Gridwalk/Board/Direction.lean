/-!
# Directions

The four directions on a board. The first coordinate grows to the right and the second one
downwards, so that turning clockwise takes `(dx, dy)` to `(-dy, dx)`.
-/

namespace Gridwalk

inductive Direction where
  | up
  | down
  | left
  | right
  deriving DecidableEq, Repr

namespace Direction

/-- What faces nowhere in particular faces right. -/
instance : Inhabited Direction := ⟨right⟩

def all : List Direction := [up, down, left, right]

def name : Direction → String
  | up => "Up"
  | down => "Down"
  | left => "Left"
  | right => "Right"

/-- The displacement of one step. -/
def delta : Direction → Int × Int
  | up => (0, -1)
  | down => (0, 1)
  | left => (-1, 0)
  | right => (1, 0)

/-- The opposite direction. -/
def opposite : Direction → Direction
  | up => down
  | down => up
  | left => right
  | right => left

instance : Neg Direction := ⟨opposite⟩

/-- A quarter turn clockwise. -/
def clockwise : Direction → Direction
  | up => right
  | right => down
  | down => left
  | left => up

/-- A quarter turn counter-clockwise. -/
def counterclockwise : Direction → Direction
  | up => left
  | left => down
  | down => right
  | right => up

/-- The letter of a direction in a level. -/
def letter : Direction → Char
  | up => 'U'
  | down => 'D'
  | left => 'L'
  | right => 'R'

def ofLetter? (c : Char) : Option Direction := all.find? (·.letter == c)

/-- The complaint about a letter that stands for no direction. -/
def unknownLetter (c : Char) : String := s!"no direction matching character '{c}'"

/-- The arrow that shows a direction. -/
def arrow : Direction → Char
  | up => '^'
  | down => 'v'
  | left => '<'
  | right => '>'

end Direction

end Gridwalk
