import Gridwalk.Board.Document
import Gridwalk.Level.Basic
import Gridwalk.Log
import Gridwalk.Text.Blank
import Gridwalk.Text.Lines

/-!
# Level documents

The document of a level names it, points to its script, and draws its tiles and directions, each
drawing as one text of several lines or as an array of rows. Every field may be missing.

**Leniency.** Blanks around a row and blank rows do not matter. A character that is no symbol
stands for an empty cell, one that is no letter of a direction for facing right. Both are worth a
warning, and so are a missing name and a field that no level has. Only the shape of the drawings
can make a document unfit.
-/

namespace Gridwalk

open Json

/-- A drawing as it is given. -/
inductive LayoutText where
  | text (s : String)
  | rows (ss : List String)
  deriving DecidableEq, Repr

/-- The rows of a drawing: trimmed, and without the blank ones. -/
def LayoutText.trimmedRows (t : LayoutText) : List (List Char) :=
  let given := match t with
    | text s => Text.lines s.toList
    | rows ss => ss.map String.toList
  (given.map Text.trim).filter (· ≠ [])

/-- What a level document says. -/
structure LevelDocument where
  name : Option String := none
  script : Option Path := none
  layout : Option LayoutText := none
  directions : Option LayoutText := none
  /-- The fields that no level has. -/
  extra : Table String Value := .empty

/-! ## Decoding -/

/-- A field of a level document. -/
inductive LevelDocument.Field where
  | name (s : Option String)
  | script (p : Option Path)
  | layout (t : Option LayoutText)
  | directions (t : Option LayoutText)
  | extra (name : String) (v : Value)

/-- The strings of an array, if it holds nothing else. -/
def stringItems? (items : List Value) : Option (List String) :=
  items.mapM fun
    | .string s => some s
    | _ => none

def LayoutText.ofValue? : Value → Option LayoutText
  | .string s => some (.text s)
  | .array items => (stringItems? items).map .rows
  | _ => none

/-- The whole value is read before it is looked at. -/
def LayoutText.decode : Decoder LayoutText := fun depth r => do
  match LayoutText.ofValue? (← decodeValue depth r) with
  | some t => return t
  | none => .error (.shape (.noVariant "LayoutText"))

namespace LevelDocument

def shape : RecordShape Field :=
  { known :=
      [("name", fun depth r => .name <$> decodeOption (decodeString "a string") depth r),
        ("pyscript_path", fun depth r =>
          (fun s => .script (s.map Path.mk)) <$> decodeOption (decodeString "path string") depth r),
        ("layout", fun depth r => .layout <$> decodeOption LayoutText.decode depth r),
        ("direction_layout", fun depth r =>
          .directions <$> decodeOption LayoutText.decode depth r)]
    other := fun name depth r => (fun v => some (.extra name v)) <$> decodeValue depth r }

/-- Enters a field into a document. -/
def put (d : LevelDocument) : Field → LevelDocument
  | .name s => { d with name := s }
  | .script p => { d with script := p }
  | .layout t => { d with layout := t }
  | .directions t => { d with directions := t }
  | .extra name v => { d with extra := d.extra.insert name v }

def decode : Decoder LevelDocument := fun depth r => do
  return (← decodeObject "struct LevelFile" shape depth r).foldl put {}

end LevelDocument

/-! ## Warnings -/

/-- What is worth a warning in a level document. -/
inductive LevelWarning where
  | unexpectedField (name : String)
  | noName
  | unknownTile (c : Char)
  | unknownDirection (c : Char)
  deriving DecidableEq, Repr

def LevelWarning.text : LevelWarning → String
  | unexpectedField name => s!"ignoring unexpected level field '{name}'"
  | noName => "level has no name"
  | unknownTile c => s!"{TileKind.unknownSymbol c}, using default"
  | unknownDirection c => s!"{Direction.unknownLetter c}, using default"

def LevelWarning.record (w : LevelWarning) : LogRecord := ⟨.warn, w.text⟩

/-! ## Levels from documents -/

/-- The meaning of every character of a drawing. -/
def readRows {α : Type} (meaning : Char → Option α) (fallback : α) (t : Option LayoutText) :
    List (List α) :=
  match t with
  | none => []
  | some t => t.trimmedRows.map fun row => row.map fun c => (meaning c).getD fallback

/-- The characters of a drawing that have no meaning, in order. -/
def unreadable {α : Type} (meaning : Char → Option α) (t : Option LayoutText) : List Char :=
  match t with
  | none => []
  | some t => t.trimmedRows.flatten.filter fun c => (meaning c).isNone

namespace LevelDocument

/-- The name of a level whose document gives none. -/
def unnamed : String := "Unnamed level"

/-- The script of the level; a relative path starts at the directory of the document. -/
def scriptFrom (d : LevelDocument) (directory : Option Path) : Option Path :=
  d.script.map fun p =>
    match directory with
    | some dir => dir.join p
    | none => p

/-- The level that a document describes. -/
def level (d : LevelDocument) (directory : Option Path) (symbols : Symbols) :
    Except LayoutError Level :=
  Level.ofParts (d.name.getD unnamed) (d.scriptFrom directory)
    (readRows symbols.kindOf? .empty d.layout)
    (readRows Direction.ofLetter? .right d.directions)

/-- The warnings about a document, in the order in which its parts are looked at. -/
def warnings (d : LevelDocument) (symbols : Symbols) : List LevelWarning :=
  d.extra.keys.map .unexpectedField
    ++ (if d.name.isNone then [.noName] else [])
    ++ (unreadable symbols.kindOf? d.layout).map .unknownTile
    ++ (unreadable Direction.ofLetter? d.directions).map .unknownDirection

end LevelDocument

end Gridwalk
