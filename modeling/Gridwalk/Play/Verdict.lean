import Gridwalk.Board.Grid
import Gridwalk.Board.Tile
import Gridwalk.Log

/-!
# Carrying out one action

An action of a cell is judged by the board as it was at the beginning of the cycle, the
*snapshot*, and by the marks of the cells that have changed since. A cell that has changed does
not act, and no tile moves onto one.

**Verdicts.** `Verdict.judge` tells what becomes of an action, and `Verdict.perform` writes that to
the live board: a move puts the tile into the cell ahead and leaves an empty cell that faces right,
a turn changes the facing in place. Every cell that is written is marked.
-/

namespace Gridwalk

/-- What becomes of an action. -/
inductive Verdict where
  /-- The cell has changed already. -/
  | stale
  | leavesGrid (dest : Coord)
  | blocked (dest : Coord) (kind : TileKind)
  | moves (dest : Coord)
  | turns (facing : Direction)
  | attacks
  | rests
  deriving DecidableEq, Repr

/-- The live board in the middle of a cycle, with marks on the cells that have changed. -/
structure Live where
  board : Grid Tile
  touched : Grid Bool

/-- No cell of a board has changed. -/
def Live.start (board : Grid Tile) : Live := ⟨board, board.const false⟩

namespace Verdict

/-- What becomes of a step in a direction. -/
def judgeStep (snapshot : Grid Tile) (touched : Grid Bool) (cell : Coord) (d : Direction) :
    Except OffGrid Verdict :=
  let dest := cell.step d
  match snapshot.get dest with
  | .error _ => .ok (.leavesGrid dest)
  | .ok target => do
    if !target.kind.isWalkable || (← touched.get dest) then return .blocked dest target.kind
    return .moves dest

/-- What becomes of an action of a cell. -/
def judge (snapshot : Grid Tile) (touched : Grid Bool) (cell : Coord) (action : Action) :
    Except OffGrid Verdict := do
  let actor ← snapshot.get cell
  if ← touched.get cell then return .stale
  match action with
  | .moveForward => judgeStep snapshot touched cell actor.facing
  | .moveBack => judgeStep snapshot touched cell (-actor.facing)
  | .turnLeft => return .turns actor.facing.counterclockwise
  | .turnRight => return .turns actor.facing.clockwise
  | .attack => return .attacks
  | .idle => return .rests

/-- The cells that a verdict changes, in the order in which this is told. -/
def changes (cell : Coord) : Verdict → List Coord
  | moves dest => [dest, cell]
  | turns _ => [cell]
  | stale | leavesGrid _ | blocked .. | attacks | rests => []

/-- Marks cells as changed. -/
def mark (touched : Grid Bool) : List Coord → Except OffGrid (Grid Bool)
  | [] => .ok touched
  | c :: cs => do mark (← touched.set c true) cs

/-- The board with a verdict on a cell written to it; `actor` is the tile that acts. -/
def write (board : Grid Tile) (cell : Coord) (actor : Tile) :
    Verdict → Except OffGrid (Grid Tile)
  | moves dest => do (← board.set dest actor).set cell {}
  | turns facing => board.modify cell fun t => { t with facing }
  | stale | leavesGrid _ | blocked .. | attacks | rests => .ok board

/-- Carries out a verdict on a cell. -/
def perform (live : Live) (cell : Coord) (actor : Tile) (v : Verdict) : Except OffGrid Live := do
  let board ← write live.board cell actor v
  let touched ← mark live.touched (v.changes cell)
  return ⟨board, touched⟩

/-- What is logged about a verdict. -/
def notice? (cell : Coord) (action : Action) (actor : Tile) : Verdict → Option String
  | stale => some s!"{cell.text} already changed this cycle, dropping {action.name}"
  | leavesGrid dest => some s!"move from {cell.text} to {dest.text} leaves the grid"
  | blocked dest kind => some s!"move from {cell.text} to {dest.text} blocked by {kind.label}"
  | moves dest => some s!"moving {actor.kind.label} from {cell.text} to {dest.text}"
  | attacks => some s!"{actor.kind.label} at {cell.text} attacks (no effect yet)"
  | turns _ | rests => none

end Verdict

/-- What carrying out an action leads to. -/
structure Applied where
  live : Live
  changed : List Coord
  records : List LogRecord

/-- Carries out an action of a cell. -/
def Live.apply (live : Live) (snapshot : Grid Tile) (cell : Coord) (action : Action) :
    Except OffGrid Applied := do
  let actor ← snapshot.get cell
  let verdict ← Verdict.judge snapshot live.touched cell action
  let live ← verdict.perform live cell actor
  return {
    live
    changed := verdict.changes cell
    records := ((verdict.notice? cell action actor).map fun text => ⟨.debug, text⟩).toList }

end Gridwalk
