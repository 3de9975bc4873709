import Gridwalk.Board.Symbols
import Gridwalk.Path
import Gridwalk.Play.Policy

/-!
# Settings

The settings of the game: its levels, where solutions are kept, the symbols of level files and the
policy of the enemies.
-/

namespace Gridwalk

structure Config where
  levels : List Path := [⟨"levels/tutorial.json"⟩]
  solutionsDir : Path := ⟨"solutions"⟩
  symbols : Symbols := .standard
  enemies : EnemyPolicy := .idle
  deriving DecidableEq

namespace Config

instance : Inhabited Config := ⟨{}⟩

/-- The extension of script files. -/
def scriptExtension : String := "pyscript"

/-- The name that solutions of a level go by: the stem of its path. -/
def solutionStem (level : Path) : String :=
  match level.stem? with
  | some stem => String.ofList stem
  | none => "level"

/-- Where the solution of a level is kept. -/
def solutionPath (c : Config) (level : Path) : Path :=
  c.solutionsDir.join ⟨s!"{solutionStem level}_solution.{scriptExtension}"⟩

end Config

end Gridwalk
