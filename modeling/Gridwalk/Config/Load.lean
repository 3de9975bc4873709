import Gridwalk.Config.Document
import Gridwalk.Files
import Gridwalk.Log

/-!
# Finding the settings

The settings come from the file that the environment names, or else from the file of the standard
name in the current directory, or else they are the defaults. A file that gives no settings is
worth a warning.
-/

namespace Gridwalk

/-- Why a file gives no settings. -/
inductive ConfigError where
  | unreadable (path : Path) (cause : FileError)
  | undecodable (path : Path) (cause : Json.DecodeError)

def ConfigError.message : ConfigError → String
  | unreadable path cause => s!"failed to read config '{path.text}': {cause.message}"
  | undecodable path cause => s!"failed to parse config '{path.text}': {cause.message}"

namespace Config

/-- The variable of the environment that may name a file with settings. -/
def environmentName : String := "PYSCRIPT_CONFIG"

/-- The standard name of a file with settings. -/
def standardFile : Path := ⟨"pyscript.json"⟩

/-- The settings of a file. -/
def load (files : Files) (path : Path) : Except ConfigError Config :=
  match files.read path with
  | .error cause => .error (.unreadable path cause)
  | .ok text =>
    match decode.run text with
    | .error cause => .error (.undecodable path cause)
    | .ok c => .ok c

/-- The file to load, if there is one. -/
def source? (files : Files) (environment : Option String) : Option Path :=
  match environment with
  | some text => some ⟨text⟩
  | none => if files.isFile standardFile then some standardFile else none

/-- The settings to use, beside the records of the search. -/
def discover (files : Files) (environment : Option String) : Config × List LogRecord :=
  match source? files environment with
  | none => ({}, [⟨.info, "no config file found, using defaults"⟩])
  | some path =>
    match load files path with
    | .ok c => (c, [⟨.info, s!"loaded config from {path.text}"⟩])
    | .error e => ({}, [⟨.warn, s!"{e.message}; using defaults"⟩])

end Config

end Gridwalk
