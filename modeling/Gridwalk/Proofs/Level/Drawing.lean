import Gridwalk.Board.Drawing
import Gridwalk.Level.Load
import Gridwalk.Proofs.Level.Document
import Gridwalk.Proofs.Level.Shape
import Gridwalk.Proofs.Symbols
import Gridwalk.Proofs.Text.Lines
import Mathlib

/-!
# Boards that are drawn and loaded again

A board is drawn by the symbols of its tiles and by the letters of their facings. A level document
with these two drawings loads as a level that starts from the very same board
(`Level.parse_drawing`), whether a drawing is given row by row or as one text.

- **Rows.** No row of a drawing is empty or holds a blank, so neither trimming nor the removal of
  blank rows changes anything (`LayoutText.Gives.trimmedRows`).
- **Meanings.** Each mark of a row means what it was drawn for (`readRows_of_gives`).
- **Shape.** Both drawings have the size of the board, and the tiles in raster order are its cells.
-/

namespace Gridwalk

/-! ## Drawings as they are given -/

/-- The drawing is given by these rows, as an array or joined by line feeds. -/
def LayoutText.Gives (t : LayoutText) (rows : List String) : Prop :=
  t = .rows rows ∨ t = .text ("\n".intercalate rows)

/-- Rows without blanks are read as they are given. -/
theorem LayoutText.Gives.trimmedRows {t : LayoutText} {rows : List String} (h : t.Gives rows)
    (hrows : ∀ row ∈ rows, Text.Solid row.toList ∧ row.toList ≠ []) :
    t.trimmedRows = rows.map String.toList := by
  have hlists : ∀ row ∈ rows.map String.toList, Text.Solid row ∧ row ≠ [] := by
    simpa using hrows
  have htrim : (rows.map String.toList).map Text.trim = rows.map String.toList :=
    (List.map_congr_left fun row hrow => Text.trim_of_solid (hlists row hrow).1).trans
      (List.map_id' _)
  have hgiven : ((rows.map String.toList).map Text.trim).filter (· ≠ []) =
      rows.map String.toList := by
    rw [htrim, List.filter_eq_self]
    intro row hrow
    simpa using (hlists row hrow).2
  rcases h with rfl | rfl
  · exact hgiven
  · have hlines : Text.lines ("\n".intercalate rows).toList = rows.map String.toList := by
      rw [String.toList_intercalate]
      exact Text.lines_intercalate fun row hrow =>
        ⟨Text.unbroken_of_solid (hlists row hrow).1, (hlists row hrow).2⟩
    rw [LayoutText.trimmedRows, hlines]
    exact hgiven

/-- A drawing whose marks are no blanks and mean some part of their tiles is read as these
parts. -/
theorem readRows_of_gives {α : Type} {g : Grid Tile} {mark : Tile → Char} {part : Tile → α}
    {meaning : Char → Option α} {t : LayoutText}
    (ht : t.Gives (g.rows.map fun row => String.ofList (row.map mark)))
    (hsolid : ∀ tile ∈ g.cells.toList, Text.isBlank (mark tile) = false)
    (hmeaning : ∀ tile ∈ g.cells.toList, meaning (mark tile) = some (part tile)) (fallback : α) :
    readRows meaning fallback (some t) = g.rows.map fun row => row.map part := by
  have hrows : ∀ r ∈ g.rows.map fun row => String.ofList (row.map mark),
      Text.Solid r.toList ∧ r.toList ≠ [] := by
    intro r hr
    obtain ⟨row, hrow, rfl⟩ := List.mem_map.1 hr
    rw [String.toList_ofList]
    constructor
    · intro c hc
      obtain ⟨tile, htile, rfl⟩ := List.mem_map.1 hc
      exact hsolid tile (Grid.mem_cells_of_mem_rows hrow htile)
    · rw [ne_eq, List.map_eq_nil_iff, ← List.length_eq_zero_iff, g.length_of_mem_rows hrow]
      exact g.width_pos.ne'
  rw [readRows, ht.trimmedRows hrows, List.map_map, List.map_map]
  apply List.map_congr_left
  intro row hrow
  rw [Function.comp_apply, Function.comp_apply, String.toList_ofList, List.map_map]
  apply List.map_congr_left
  intro tile htile
  rw [Function.comp_apply, hmeaning tile (Grid.mem_cells_of_mem_rows hrow htile)]
  rfl

/-! ## Marks that can be read back -/

/-- The symbols draw a kind so that it can be read back: a character stands for it, and the one
that draws it is no blank. -/
structure Symbols.Draws (s : Symbols) (k : TileKind) : Prop where
  known : ∃ c, s.kindOf? c = some k
  visible : Text.isBlank (s.symbolOf k) = false

theorem Direction.ofLetter?_letter (d : Direction) : Direction.ofLetter? d.letter = some d := by
  cases d <;> decide

theorem Direction.isBlank_letter (d : Direction) : Text.isBlank d.letter = false := by
  cases d <;> decide

/-- The rows of a board in the letters of all facings. -/
def Grid.letters (g : Grid Tile) : List String :=
  g.rows.map fun row => String.ofList (row.map fun t => t.facing.letter)

/-! ## Levels -/

section Rows

variable {α : Type} (g : Grid Tile) (part : Tile → α)

theorem length_of_mem_map_rows {row : List α}
    (h : row ∈ g.rows.map fun row => row.map part) : row.length = g.width := by
  obtain ⟨tiles, htiles, rfl⟩ := List.mem_map.1 h
  rw [List.length_map]
  exact g.length_of_mem_rows htiles

theorem rowWidth_map_rows : rowWidth (g.rows.map fun row => row.map part) = g.width := by
  have hne : (g.rows.map fun row => row.map part) ≠ [] := by
    rw [← List.length_pos_iff, List.length_map, g.length_rows]
    exact g.height_pos
  exact ((forall_length_eq_iff hne g.width).1 fun _ => length_of_mem_map_rows g part).2

/-- The parts of the tiles of a board, row by row, form two drawings that fit together. -/
theorem checkShape_rows :
    checkShape (g.rows.map fun row => row.map (·.kind))
      (g.rows.map fun row => row.map (·.facing)) = .ok () := by
  rw [checkShape_eq_ok_iff, rowWidth_map_rows]
  refine ⟨fun row => length_of_mem_map_rows g _, .inr ⟨fun row => length_of_mem_map_rows g _, ?_⟩⟩
  rw [List.length_map, List.length_map]

end Rows

/-- A level that is drawn from the rows of a board starts from this board. -/
theorem Level.initialGrid_of_rows {l : Level} {g : Grid Tile}
    (hlayout : l.layout = g.rows.map fun row => row.map (·.kind))
    (hdirections : l.directions = g.rows.map fun row => row.map (·.facing)) :
    l.initialGrid = some g := by
  have hwidth : l.width = g.width := by rw [width, hlayout, rowWidth_map_rows]
  have hheight : l.height = g.height := by rw [height, hlayout, List.length_map, g.length_rows]
  have htiles : l.tiles = g.cells.toList := by
    rw [tiles_eq_flatten hlayout hdirections, g.flatten_rows]
  have hcells : Grid.ofCells l.width l.height l.tiles.toArray = .ok g := by
    rw [Grid.ofCells_eq_ok_iff, hwidth, hheight, htiles]
    exact ⟨rfl, rfl, rfl⟩
  have hempty : l.isEmpty = false := by simpa [isEmpty, hwidth] using g.width_pos.ne'
  simp [initialGrid, hempty, hcells, Except.toOption]

/-- A document whose drawings read as the rows of a board describes a level that starts from it. -/
theorem exists_level_of_readRows {d : LevelDocument} {symbols : Symbols} {g : Grid Tile}
    (hlayout : readRows symbols.kindOf? .empty d.layout = g.rows.map fun row => row.map (·.kind))
    (hdirections : readRows Direction.ofLetter? .right d.directions =
      g.rows.map fun row => row.map (·.facing)) (directory : Option Path) :
    ∃ l, d.level directory symbols = .ok l ∧ l.initialGrid = some g := by
  obtain ⟨l, hl, hllayout, hldirections⟩ := Level.exists_ofParts (checkShape_rows g)
    (d.name.getD LevelDocument.unnamed) (d.scriptFrom directory)
  refine ⟨l, ?_, Level.initialGrid_of_rows hllayout hldirections⟩
  rw [LevelDocument.level, hlayout, hdirections, hl]

theorem Level.parse_of_level {text : String} {directory : Option Path} {symbols : Symbols}
    {d : LevelDocument} {l : Level} (hrun : LevelDocument.decode.run text = .ok d)
    (hlevel : d.level directory symbols = .ok l) :
    (Level.parse text directory symbols).1 = .ok l := by
  rw [parse_of_run hrun, hlevel]
  rfl

/-- **Drawing and loading.** A board that the symbols can draw is drawn, once in symbols and once
in letters, and the two drawings are put into a level document, each as an array of rows or as one
text. Then every text that spells the document loads as a level, and this level starts from the
board. -/
theorem Level.parse_drawing {symbols : Symbols} {g : Grid Tile}
    (hdraws : ∀ t ∈ g.cells.toList, symbols.Draws t.kind)
    {layout directions : LayoutText}
    (hlayout : layout.Gives (g.drawing symbols)) (hdirections : directions.Gives g.letters)
    {fs : List LevelDocument.Field} (hfit : LevelDocument.Fitting fs)
    (hlayoutmem : .layout layout ∈ fs) (hdirectionsmem : .directions directions ∈ fs)
    {text : String} (htext : (LevelDocument.value fs).WrittenAs text) (directory : Option Path) :
    ∃ level, (Level.parse text directory symbols).1 = .ok level ∧ level.initialGrid = some g := by
  obtain ⟨d, hrun, hdlayout, hddirections⟩ :=
    LevelDocument.exists_run_of_writtenAs hfit htext hlayoutmem hdirectionsmem
  have hkinds : readRows symbols.kindOf? .empty d.layout =
      g.rows.map fun row => row.map (·.kind) := by
    rw [hdlayout]
    exact readRows_of_gives hlayout (fun t ht => (hdraws t ht).visible)
      (fun t ht => Symbols.kindOf?_symbolOf (hdraws t ht).known) _
  have hfacings : readRows Direction.ofLetter? .right d.directions =
      g.rows.map fun row => row.map (·.facing) := by
    rw [hddirections]
    exact readRows_of_gives hdirections (fun t _ => t.facing.isBlank_letter)
      (fun t _ => t.facing.ofLetter?_letter) _
  obtain ⟨level, hlevel, hgrid⟩ := exists_level_of_readRows hkinds hfacings directory
  exact ⟨level, Level.parse_of_level hrun hlevel, hgrid⟩

namespace Courtyard

open Json

/-- Walls have two symbols, of which the lesser one draws them. -/
def symbols : Symbols :=
  ⟨.ofList [('X', .blocked), ('#', .blocked), ('.', .empty), ('@', .player)]⟩

def board : Grid Tile where
  width := 2
  height := 2
  cells := #[⟨.blocked, .right⟩, ⟨.player, .up⟩, ⟨.empty, .down⟩, ⟨.blocked, .left⟩]
  size_cells := rfl
  width_pos := Nat.two_pos
  height_pos := Nat.two_pos

/-- The fields of a level document: one drawing by rows, the other one as one text, and a field
that no level has. -/
def fields : List LevelDocument.Field :=
  [.layout (some (.rows ["#@", ".#"])), .extra "author" (.array [.null]),
    .directions (some (.text "RU\nDL"))]

def text : String :=
  "\x7b \"layout\": [\"#@\", \".#\"],\n\"author\": [null], \"direction_layout\": \"RU\\nDL\" \x7d\n"

theorem fitting : LevelDocument.Fitting fields where
  readable := by
    simp [fields, LevelDocument.Field.Readable, LevelDocument.ownNames, LevelDocument.shape]
    decide
  once := by
    simp [fields, LevelDocument.Field.entry, LevelDocument.ownNames, LevelDocument.shape]

theorem written : (LevelDocument.value fields).WrittenAs text := by
  have hnone : Spaces [] := by decide
  have hspace : Spaces [' '] := by decide
  have hline : Spaces ['\n'] := by decide
  have hlayout : Spelled (.array [.string "#@", .string ".#"]) _ :=
    .array hnone (.next (spelled_of_plain "#@" rfl) hnone hspace
      (.last (spelled_of_plain ".#" rfl) hnone))
  have hauthor : Spelled (.array [.null]) _ := .array hnone (.last .null hnone)
  have hdirections : Spelled (.string (String.ofList ['R', 'U', '\n', 'D', 'L'])) _ :=
    .string (.append ['R', 'U'] rfl (.escape (e := 'n') rfl (.append ['D', 'L'] rfl .close)))
  have hfields : Spelled (LevelDocument.value fields) _ :=
    .object hspace (.next (fieldText_of_plain "layout" rfl hnone hspace hlayout) hnone hline
      (.next (fieldText_of_plain "author" rfl hnone hspace hauthor) hnone hspace
        (.last (fieldText_of_plain "direction_layout" rfl hnone hspace hdirections) hspace)))
  exact ⟨[], _, ['\n'], rfl, hnone, hfields, hline⟩

theorem draws : ∀ t ∈ board.cells.toList, symbols.Draws t.kind := by
  intro t ht
  simp only [board, List.mem_cons, List.not_mem_nil, or_false] at ht
  rcases ht with rfl | rfl | rfl | rfl
  · exact ⟨⟨'X', rfl⟩, rfl⟩
  · exact ⟨⟨'@', rfl⟩, rfl⟩
  · exact ⟨⟨'.', rfl⟩, rfl⟩
  · exact ⟨⟨'#', rfl⟩, rfl⟩

theorem parse_text :
    ∃ level, (Level.parse text none symbols).1 = .ok level ∧ level.initialGrid = some board := by
  have hlayout : (LayoutText.rows ["#@", ".#"]).Gives (board.drawing symbols) := .inl rfl
  have hdirections : (LayoutText.text "RU\nDL").Gives board.letters := .inr rfl
  exact Level.parse_drawing draws hlayout hdirections fitting (by simp [fields]) (by simp [fields])
    written none

end Courtyard

end Gridwalk
