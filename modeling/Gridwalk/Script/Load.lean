import Gridwalk.Files
import Gridwalk.Script.Scan

/-!
# Script files

Reading a script from a file: an error names the file, and the log tells when the reading starts
and, if it succeeds, how many tokens were found.
-/

namespace Gridwalk.Script

/-- Why a file gives no tokens. -/
inductive ScriptError where
  | unreadable (path : Path) (cause : FileError)
  | invalid (path : Path) (cause : LexError)
  deriving DecidableEq, Repr

def ScriptError.message : ScriptError → String
  | unreadable path cause => s!"failed to read script '{path.text}': {cause.message}"
  | invalid path cause => s!"{path.text}: {cause.message}"

/-- The tokens of a script file, beside the records of the reading. -/
def tokenizeFile (files : Files) (path : Path) :
    Except ScriptError (List Token) × List LogRecord :=
  let start : LogRecord := ⟨.info, s!"START tokenizing {path.text}"⟩
  match files.read path with
  | .error cause => (.error (.unreadable path cause), [start])
  | .ok source =>
    let records := start :: (scanScript source).records
    match tokenize source with
    | .error cause => (.error (.invalid path cause), records)
    | .ok tokens =>
      let finish : LogRecord := ⟨.info, s!"END tokenizing {path.text} ({tokens.length} tokens)"⟩
      (.ok tokens, records ++ [finish])

end Gridwalk.Script
