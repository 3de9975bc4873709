import Gridwalk.Board.Tile
import Gridwalk.Table

/-!
# Symbols

A level draws its board with characters. A table of symbols tells the kind of tile that each
character stands for. Several characters may stand for the same kind; the least of them draws it.
A kind without a symbol is drawn by its letter.
-/

namespace Gridwalk

/-- The kinds of tiles that characters stand for. -/
structure Symbols where
  table : Table Char TileKind
  deriving DecidableEq

namespace Symbols

/-- Every kind by its letter. -/
def standard : Symbols := ⟨.ofList (TileKind.all.map fun k => (k.letter, k))⟩

instance : Inhabited Symbols := ⟨standard⟩

/-- The kind that a character stands for. -/
def kindOf? (s : Symbols) (c : Char) : Option TileKind := s.table.find? c

/-- The character that draws a kind. -/
def symbolOf (s : Symbols) (k : TileKind) : Char :=
  match s.table.entries.find? (·.2 = k) with
  | some (c, _) => c
  | none => k.letter

/-- The only character of a key. The error is a key that has none or several. -/
def symbolOfKey (key : String) : Except String Char :=
  match key.toList with
  | [c] => .ok c
  | _ => .error key

/-- The symbols whose keys are strings of one character. The error is the least key that is
not. -/
def ofKeys (keys : Table String TileKind) : Except String Symbols := do
  let entries ← keys.entries.mapM fun (key, k) => do return (← symbolOfKey key, k)
  return ⟨.ofList entries⟩

/-- The symbols as strings of one character. -/
def toKeys (s : Symbols) : Table String TileKind :=
  .ofList (s.table.entries.map fun (c, k) => (String.singleton c, k))

end Symbols

end Gridwalk
