import Gridwalk.Level.Basic

/-!
# Watching flags

A flag is reached when a player comes to stand on a cell that is a flag in the level, even if the
flag itself is gone by then. Several players, or several flags, make no difference: an arrival is
reported when some flag cell holds a player and none did before.
-/

namespace Gridwalk

/-- The flag cells of a level, and whether a player stands on one. -/
structure FlagWatch where
  flags : List Coord := []
  onFlag : Bool := false
  deriving DecidableEq, Repr

namespace FlagWatch

/-- Watches the flags of a level. -/
def ofLevel (l : Level) : FlagWatch :=
  { flags := match l.initialGrid with
      | none => []
      | some g => (g.toList.filter fun (_, t) => t.kind = .flag).map (·.1) }

/-- The cell holds a player. -/
def holdsPlayer (g : Grid Tile) (c : Coord) : Bool :=
  match g.get c with
  | .ok t => t.kind = .player
  | .error _ => false

/-- Looks at a board: whether a flag has just been reached, and the watch after that. -/
def update (w : FlagWatch) (g : Grid Tile) : Bool × FlagWatch :=
  let now := w.flags.any (holdsPlayer g)
  (now && !w.onFlag, { w with onFlag := now })

end FlagWatch

end Gridwalk
