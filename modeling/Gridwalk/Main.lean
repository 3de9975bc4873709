import Gridwalk.Terminal.Game

/-!
# The command line

Plays a game on the terminal: the argument or else the settings name the level, and what the
player types is answered line by line. Log records go to the error output.

All that the game reads from the file system are the settings, the level and its script. Each is
read right before it is needed and handed to the game as a finding.
-/

namespace Gridwalk.Main

/-- The cause for which the system refuses to read a file. A directory can be opened and fails
only afterwards, when no name goes with the error. -/
def fileError : IO.Error → FileError
  | .noFileOrDirectory .. => .notFound
  | .inappropriateType (some _) .. => .notDirectory
  | .inappropriateType none .. => .isDirectory
  | .permissionDenied .. => .other "Permission denied (os error 13)"
  | e => .other e.toString

/-- Reads a file. -/
def find (path : Path) : IO Finding := do
  try
    let bytes ← IO.FS.readBinFile path.text
    match String.fromUTF8? bytes with
    | some text => return ⟨path, .ok text⟩
    | none => return ⟨path, .error .notText⟩
  catch e => return ⟨path, .error (fileError e)⟩

/-- Reads a file, if there is one to read. -/
def look (path : Option Path) : IO Files := do
  match path with
  | some p => return .ofFindings [← find p]
  | none => return .ofFindings []

/-- Writes the records that are serious enough. -/
def log (records : List LogRecord) : IO Unit := do
  for r in records.filter (·.atLeast .info) do
    IO.eprintln s!"[{r.severity.name}] {r.text}"

/-- Prints items. -/
def print (symbols : Symbols) (items : List Terminal.Item) : IO Unit := do
  for text in items.flatMap (·.lines symbols) do
    IO.println text
  (← IO.getStdout).flush

/-- Reads bytes up to the next line feed, with which they end unless the input does. -/
partial def readLine (input : IO.FS.Stream) (line : ByteArray) : IO ByteArray := do
  let next ← input.read 1
  if next.isEmpty then return line
  let line := line ++ next
  if next == [Terminal.lineFeed].toByteArray then return line
  readLine input line

/-- Answers lines until the player quits or the input ends. -/
partial def play (input : IO.FS.Stream) (symbols : Symbols) (st : Terminal.State) : IO Unit := do
  match Terminal.typed (← readLine input .empty) with
  | commands :: _ =>
    let files ← look (st.session.level.bind (·.script))
    let o := Terminal.line files st commands
    log o.records
    print symbols o.items
    if !o.quit then play input symbols o.state
  | [] => return ()

/-- Plays a game in the level that the first argument names, or in the first one of the
settings. -/
def run (arguments : List String) : IO UInt32 := do
  let environment ← IO.getEnv Config.environmentName
  let settings ← look (some (environment.elim Config.standardFile Path.mk))
  let (config, records) := Config.discover settings environment
  log records
  match Terminal.levelToOpen config arguments with
  | none =>
    log [⟨.error, "no level given and none configured"⟩]
    return Terminal.noLevelCode.toUInt32
  | some path =>
    let first := Terminal.start (← look (some path)) config path
    log first.records
    print config.symbols first.items
    play (← IO.getStdin) config.symbols first.state
    return 0

end Gridwalk.Main

def main (arguments : List String) : IO UInt32 := Gridwalk.Main.run arguments
