import Gridwalk.Board.Drawing
import Gridwalk.Play.Event
import Gridwalk.Script.Listing

/-!
# What a terminal shows

A game on a terminal prints items, and each item is one or more lines. The items that answer what
was typed and those that show the state of the game are of different kinds, so that the two can
be told apart.
-/

namespace Gridwalk.Terminal

/-- A thing to print. -/
inductive Item where
  | event (e : Event)
  | failure (text : String)
  | noScript
  | help
  | status (level : String) (last : Option CycleSummary)
  | board (g : Grid Tile)
  | flagReached

/-- The line that explains the words. -/
def helpText : String :=
  "w: forward  s: back  a: turn left  d: turn right  f: attack  .: wait  " ++
    "r: tokenize script  q: quit"

/-- One line about a level and its last cycle. -/
def statusLine (level : String) : Option CycleSummary → String
  | some s => s!"{level} | cycle {s.cycle} | {s.changed} tile(s) changed"
  | none => s!"{level} | cycle 0"

/-- A board in symbols and in facings, side by side. -/
def boardLines (symbols : Symbols) (g : Grid Tile) : List String :=
  List.zipWith (fun tiles facings => s!"  {tiles}   {facings}") (g.drawing symbols) g.facings

/-- A line about the things on a board. -/
def inventory (g : Grid Tile) : String :=
  s!"  {g.count .key} key(s), {g.count .gate} gate(s), {g.count .enemy} enemy(ies)"

def eventLines (symbols : Symbols) : Event → List String
  | .levelOpened l =>
    s!"== {l.name} ==" :: match l.initialGrid with
      | none => []
      | some g => boardLines symbols g ++ [inventory g]
  | .levelClosed => ["== level closed =="]
  | .tileChanged c =>
    let symbol := symbols.symbolOf c.tile.kind
    [s!"  ({c.coord.x}, {c.coord.y}) -> {symbol} facing {c.tile.facing.letter}"]
  | .tokenized tokens => Script.listing tokens

/-- The lines of an item. -/
def Item.lines (symbols : Symbols) : Item → List String
  | event e => eventLines symbols e
  | failure text => [s!"error: {text}"]
  | noScript => ["this level has no script"]
  | help => [helpText]
  | status level last => [statusLine level last]
  | board g => boardLines symbols g
  | flagReached => ["flag reached!"]

end Gridwalk.Terminal
