import Gridwalk.Board.Grid
import Gridwalk.Board.Tile
import Gridwalk.Play.RandomStream

/-!
# Policies

A policy decides what every tile but the players does in a cycle. It sees the board as it was when
the cycle began, and may remember something from one decision to the next.

**Minds.** Two policies come with the game. The idle one lets nothing act. The wandering one lets
enemies, and only them, do something at random, which its seed determines.
-/

namespace Gridwalk

/-- How decisions are made, with memory of type `σ`. -/
structure Policy (σ : Type) where
  decide : σ → Coord → Grid Tile → Except OffGrid Action × σ

/-- The policies that a game can be set to. -/
inductive EnemyPolicy where
  | idle
  | wander (seed : UInt64)
  deriving DecidableEq, Repr

instance : Inhabited EnemyPolicy := ⟨.idle⟩

/-- The memory of a policy that comes with the game. -/
inductive Mind where
  | idle
  | wander (stream : RandomStream)
  deriving DecidableEq, Repr

namespace Mind

/-- A fresh memory. -/
def ofPolicy : EnemyPolicy → Mind
  | .idle => idle
  | .wander seed => wander (.ofSeed seed)

/-- What a wandering enemy chooses from. -/
def wanderChoice : Fin 4 → Action
  | 0 => .moveForward
  | 1 => .turnLeft
  | 2 => .turnRight
  | 3 => .idle

/-- Decides for a cell. Only a decision for an enemy takes something from the stream. -/
def decide (m : Mind) (cell : Coord) (board : Grid Tile) : Except OffGrid Action × Mind :=
  match board.get cell with
  | .error e => (.error e, m)
  | .ok tile =>
    match m with
    | idle => (.ok .idle, idle)
    | wander stream =>
      if tile.kind = .enemy then
        let (choice, stream) := stream.choose
        (.ok (wanderChoice choice), wander stream)
      else (.ok .idle, wander stream)

def policy : Policy Mind := ⟨decide⟩

end Mind

end Gridwalk
