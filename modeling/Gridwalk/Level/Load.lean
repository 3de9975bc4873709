import Gridwalk.Files
import Gridwalk.Level.Document

/-!
# Loading levels

A level is loaded from the text of its document or from a file that holds it. `Level.load` never
fails: a level that cannot be loaded is replaced by its placeholder.
-/

namespace Gridwalk

/-- Why a level cannot be loaded. -/
inductive LoadError where
  | unreadable (path : Path) (cause : FileError)
  | undecodable (cause : Json.DecodeError)
  | misshapen (cause : LayoutError)

def LoadError.message : LoadError → String
  | unreadable path cause => s!"failed to read level '{path.text}': {cause.message}"
  | undecodable cause => s!"failed to parse level: {cause.message}"
  | misshapen cause => s!"invalid level layout: {cause.message}"

namespace Level

/-- The level of a text in a directory, beside the records of the reading. -/
def parse (text : String) (directory : Option Path) (symbols : Symbols) :
    Except LoadError Level × List LogRecord :=
  match LevelDocument.decode.run text with
  | .error cause => (.error (.undecodable cause), [])
  | .ok document =>
    let records := (document.warnings symbols).map LevelWarning.record
    match document.level directory symbols with
    | .error cause => (.error (.misshapen cause), records)
    | .ok level => (.ok level, records)

/-- The level of a file, beside the records of the reading. -/
def tryLoad (files : Files) (path : Path) (symbols : Symbols) :
    Except LoadError Level × List LogRecord :=
  let start : LogRecord := ⟨.debug, s!"loading level {path.text}"⟩
  match files.read path with
  | .error cause => (.error (.unreadable path cause), [start])
  | .ok text =>
    let (result, records) := parse text path.parent? symbols
    (result, start :: records)

/-- The level of a file or the placeholder for it, beside the records of the reading. -/
def load (files : Files) (path : Path) (symbols : Symbols) : Level × List LogRecord :=
  match tryLoad files path symbols with
  | (.ok level, records) => (level, records)
  | (.error e, records) =>
    (placeholder e.message, records ++ [⟨.error, s!"{path.text}: {e.message}"⟩])

end Level

end Gridwalk
