import Gridwalk.Play.Policy
import Gridwalk.Play.Verdict

/-!
# Cycles

An engine holds the board of a running game. In a cycle

- every cell is given an action, decided on the board as it is when the cycle begins: players do
  what they are told, and the policy decides for all other cells, in raster order;
- the actions are carried out in raster order; idle cells are left out;
- every change is told, with the tile that the cell holds at the end of the cycle.

A policy that has no decision for a cell leaves it idle.
-/

namespace Gridwalk

/-- A running game; `memory` belongs to its policy. -/
structure Engine (σ : Type) where
  board : Grid Tile
  memory : σ
  cycles : Nat

/-- What a cycle came to: its number, counted from one, and how many changes there were. -/
structure CycleSummary where
  cycle : Nat
  changed : Nat
  deriving DecidableEq, Repr

/-- The change of one cell. -/
structure TileChange where
  coord : Coord
  tile : Tile
  deriving DecidableEq, Repr

/-- The decision for one cell. -/
structure Decision where
  cell : Coord
  action : Except OffGrid Action

/-- The decision as it is carried out. -/
def Decision.effective (d : Decision) : Action :=
  match d.action with
  | .ok a => a
  | .error _ => .idle

/-- The complaint about a missing decision. -/
def Decision.record? (cycle : Nat) (d : Decision) : Option LogRecord :=
  match d.action with
  | .ok _ => none
  | .error e => some ⟨.error, s!"cycle {cycle}: no decision for {d.cell.text}: {e.message}"⟩

/-- Decides for cells one after another, and the memory after that. -/
def decideCells {σ : Type} (policy : Policy σ) (player : Action) (snapshot : Grid Tile) :
    σ → List (Coord × Tile) → List Decision × σ
  | memory, [] => ([], memory)
  | memory, (cell, tile) :: rest =>
    let (action, memory) :=
      if tile.kind = .player then (.ok player, memory) else policy.decide memory cell snapshot
    let (decisions, memory) := decideCells policy player snapshot memory rest
    (⟨cell, action⟩ :: decisions, memory)

/-- The state of the board while decisions are carried out. -/
structure Progress where
  live : Live
  changed : List Coord
  records : List LogRecord

/-- Carries out one decision. -/
def Progress.step (cycle : Nat) (snapshot : Grid Tile) (p : Progress) (d : Decision) : Progress :=
  let action := d.effective
  if action = .idle then p
  else match p.live.apply snapshot d.cell action with
    | .ok a => ⟨a.live, p.changed ++ a.changed, p.records ++ a.records⟩
    | .error e =>
      { p with records := p.records ++
          [⟨.error, s!"cycle {cycle}: skipping {action.name} at {d.cell.text}: {e.message}"⟩] }

/-- Carries out decisions one after another, from an untouched board on. -/
def carryOut (cycle : Nat) (snapshot : Grid Tile) (decisions : List Decision) : Progress :=
  decisions.foldl (Progress.step cycle snapshot) ⟨.start snapshot, [], []⟩

/-- What a cell holds, as a change. -/
def tileChange? (board : Grid Tile) (c : Coord) : Option TileChange :=
  match board.get c with
  | .ok tile => some ⟨c, tile⟩
  | .error _ => none

/-- What a cycle leads to. -/
structure CycleResult (σ : Type) where
  engine : Engine σ
  summary : CycleSummary
  records : List LogRecord
  changes : List TileChange

namespace Engine

variable {σ : Type}

/-- A game that begins on a board. -/
def start (board : Grid Tile) (memory : σ) : Engine σ := ⟨board, memory, 0⟩

/-- Runs one cycle. Without an action the players are idle. -/
def cycle (policy : Policy σ) (e : Engine σ) (player : Option Action) : CycleResult σ :=
  let number := e.cycles + 1
  let (decisions, memory) :=
    decideCells policy (player.getD .idle) e.board e.memory e.board.toList
  let progress := carryOut number e.board decisions
  { engine := ⟨progress.live.board, memory, number⟩
    summary := ⟨number, progress.changed.length⟩
    records := decisions.filterMap (Decision.record? number) ++ progress.records
    changes := progress.changed.filterMap (tileChange? progress.live.board) }

end Engine

end Gridwalk
