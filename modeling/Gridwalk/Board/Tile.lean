import Gridwalk.Board.Direction

/-!
# Tiles and actions

A tile is what a cell of the board holds: a kind and a facing. In each cycle every tile is given
one action.
-/

namespace Gridwalk

inductive TileKind where
  | blocked
  | empty
  | player
  | flag
  | key
  | gate
  | enemy
  deriving DecidableEq, Repr

namespace TileKind

instance : Inhabited TileKind := ⟨empty⟩

def all : List TileKind := [blocked, empty, player, flag, key, gate, enemy]

/-- The name in documents. -/
def name : TileKind → String
  | blocked => "BLOCKED"
  | empty => "EMPTY"
  | player => "PLAYER"
  | flag => "FLAG"
  | key => "KEY"
  | gate => "GATE"
  | enemy => "ENEMY"

/-- The name in the log. -/
def label : TileKind → String
  | blocked => "Blocked"
  | empty => "Empty"
  | player => "Player"
  | flag => "Flag"
  | key => "Key"
  | gate => "Gate"
  | enemy => "Enemy"

/-- A tile may move onto a cell of this kind. -/
def isWalkable : TileKind → Bool
  | empty | flag | key => true
  | blocked | player | gate | enemy => false

/-- The kind has a facing that matters. -/
def isActor : TileKind → Bool
  | player | enemy => true
  | blocked | empty | flag | key | gate => false

/-- The letter of a kind in a level without symbols of its own. -/
def letter : TileKind → Char
  | blocked => 'X'
  | empty => 'O'
  | player => 'P'
  | flag => 'F'
  | key => 'K'
  | gate => 'G'
  | enemy => 'E'

def ofLetter? (c : Char) : Option TileKind := all.find? (·.letter == c)

/-- The complaint about a character that stands for no kind of tile. -/
def unknownSymbol (c : Char) : String := s!"no tile type matching character '{c}'"

end TileKind

structure Tile where
  kind : TileKind := .empty
  facing : Direction := .right
  deriving DecidableEq, Repr, Inhabited

/-- What a tile may do in a cycle. Attacking has no effect so far. -/
inductive Action where
  | moveForward
  | moveBack
  | turnLeft
  | turnRight
  | attack
  | idle
  deriving DecidableEq, Repr

namespace Action

instance : Inhabited Action := ⟨idle⟩

def all : List Action := [moveForward, moveBack, turnLeft, turnRight, attack, idle]

def name : Action → String
  | moveForward => "MoveForward"
  | moveBack => "MoveBack"
  | turnLeft => "TurnLeft"
  | turnRight => "TurnRight"
  | attack => "Attack"
  | idle => "Idle"

end Action

end Gridwalk
