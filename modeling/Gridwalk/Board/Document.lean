import Gridwalk.Board.Coord
import Gridwalk.Board.Symbols
import Gridwalk.Json.Decode

/-!
# The parts of a board in documents

Directions, kinds of tiles and actions are enumerations of names; tiles and coordinates are
records; a table of symbols is an object from characters to kinds.
-/

namespace Gridwalk

open Json

/-! ## Enumerations -/

def Direction.decode : Decoder Direction :=
  decodeEnum (Direction.all.map fun d => .plain d.name d)

def TileKind.decode : Decoder TileKind :=
  decodeEnum (TileKind.all.map fun k => .plain k.name k)

def Action.decode : Decoder Action :=
  decodeEnum (Action.all.map fun a => .plain a.name a)

/-! ## Records -/

/-- A field of a tile. -/
inductive Tile.Field where
  | kind (k : TileKind)
  | facing (d : Direction)

def Tile.shape : RecordShape Tile.Field :=
  { known :=
      [("tile_type", fun depth r => .kind <$> TileKind.decode depth r),
        ("tile_direction", fun depth r => .facing <$> Direction.decode depth r)]
    other := skipOther }

def Tile.decode : Decoder Tile := fun depth r => do
  let fields ← decodeRecord "struct TileData" (tooShort "struct TileData with 2 elements")
    Tile.shape depth r
  let kind ← require "tile_type" (fields.findSome? fun | .kind k => some k | _ => none)
  let facing ← require "tile_direction" (fields.findSome? fun | .facing d => some d | _ => none)
  return ⟨kind, facing⟩

def Tile.encode (t : Tile) : Value :=
  .object [("tile_type", .string t.kind.name), ("tile_direction", .string t.facing.name)]

/-- A coordinate in a document is an integer of 32 bits. -/
def decodeOrdinate : Decoder Int := decodeInt (-0x80000000) 0x7fffffff "i32"

/-- A field of a coordinate. -/
inductive Coord.Field where
  | x (n : Int)
  | y (n : Int)

def Coord.shape : RecordShape Coord.Field :=
  { known :=
      [("x", fun depth r => .x <$> decodeOrdinate depth r),
        ("y", fun depth r => .y <$> decodeOrdinate depth r)]
    other := skipOther }

def Coord.decode : Decoder Coord := fun depth r => do
  let fields ← decodeRecord "struct TileCoord" (tooShort "struct TileCoord with 2 elements")
    Coord.shape depth r
  let x ← require "x" (fields.findSome? fun | .x n => some n | _ => none)
  let y ← require "y" (fields.findSome? fun | .y n => some n | _ => none)
  return ⟨x, y⟩

/-! ## Symbols -/

/-- The keys are looked at when the whole object has been read. -/
def Symbols.decode : Decoder Symbols := fun depth r => do
  let entries ← decodeMap TileKind.decode depth r
  match Symbols.ofKeys (.ofList entries) with
  | .ok s => return s
  | .error key => .error (.shape (.longSymbol key))

def Symbols.encode (s : Symbols) : Value :=
  .object (s.toKeys.entries.map fun (key, k) => (key, .string k.name))

end Gridwalk
