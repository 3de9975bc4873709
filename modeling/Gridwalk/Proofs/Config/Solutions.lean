import Gridwalk.Config.Basic
import Gridwalk.Proofs.Path
import Mathlib

/-!
# Where solutions are kept

The solution of a level is a file in the directory of solutions. Its name is made of the stem of the
path of the level and a fixed ending.

**Theorem (`Config.solutions_by_stem`).** Whatever the directory and the path of the level are, the
components of the path of the solution are those of the directory and one name more. So a solution
is never put anywhere else, and levels share their solution if and only if they share their stem.

The stem is a piece of the path of the level, so it holds no slash, and with its ending it is
neither empty nor `.` nor `..`: it is one name (`Config.isName_solution`).
-/

namespace Gridwalk.Config

open Gridwalk.Path (IsName)

/-- What the names of all solutions end in. -/
def solutionEnding : List Char := "_solution.pyscript".toList

theorem solutionName_eq (stem : String) :
    s!"{stem}_solution.{scriptExtension}" = String.ofList (stem.toList ++ solutionEnding) := by
  have hjoined : "_solution." ++ "pyscript" = "_solution.pyscript" := by rfl
  have hending : String.ofList solutionEnding = "_solution.pyscript" := String.ofList_toList
  calc s!"{stem}_solution.{scriptExtension}"
    _ = stem ++ ("_solution." ++ "pyscript") := String.append_assoc
    _ = stem ++ "_solution.pyscript" := by rw [hjoined]
    _ = String.ofList (stem.toList ++ solutionEnding) := by
      rw [String.ofList_append, String.ofList_toList, hending]

theorem solutionPath_eq (c : Config) (level : Path) :
    c.solutionPath level =
      c.solutionsDir.join ⟨String.ofList ((solutionStem level).toList ++ solutionEnding)⟩ := by
  exact congrArg (fun name => c.solutionsDir.join ⟨name⟩) (solutionName_eq (solutionStem level))

theorem toList_solutionStem (level : Path) :
    (solutionStem level).toList = level.stem?.getD "level".toList := by
  unfold solutionStem
  split
  · next hstem => simp [hstem]
  · next hstem => simp [hstem]

/-- The name of a solution is the name of a file. -/
theorem isName_solution (level : Path) :
    IsName ((solutionStem level).toList ++ solutionEnding) := by
  apply Path.isName_append
  · rw [toList_solutionStem]
    cases hstem : level.stem? with
    | none => decide
    | some stem => exact Path.notMem_of_stem? hstem
  · decide
  · decide

theorem components_solutionPath (c : Config) (level : Path) :
    (c.solutionPath level).components =
      c.solutionsDir.components ++ [.name ((solutionStem level).toList ++ solutionEnding)] := by
  have hname := isName_solution level
  rw [solutionPath_eq, Path.components_join hname.anchor, hname.components]

/-- **Solutions by stem.** The solution of a level is a file of the directory of solutions, named
after the stem of the level, or `level` where there is none. Two levels have the same path of a
solution, and paths with the same components, if and only if they have the same stem. -/
theorem solutions_by_stem (c : Config) :
    (∀ level : Path, (c.solutionPath level).components =
      c.solutionsDir.components ++
        [.name (level.stem?.getD "level".toList ++ "_solution.pyscript".toList)]) ∧
    ∀ level level' : Path,
      ((c.solutionPath level).components = (c.solutionPath level').components ↔
        level.stem?.getD "level".toList = level'.stem?.getD "level".toList) ∧
      (c.solutionPath level = c.solutionPath level' ↔
        level.stem?.getD "level".toList = level'.stem?.getD "level".toList) := by
  have hcomponents : ∀ level : Path, (c.solutionPath level).components =
      c.solutionsDir.components ++ [.name (level.stem?.getD "level".toList ++ solutionEnding)] := by
    intro level
    rw [components_solutionPath, toList_solutionStem]
  have hstem : ∀ level level' : Path,
      (c.solutionPath level).components = (c.solutionPath level').components ↔
        level.stem?.getD "level".toList = level'.stem?.getD "level".toList := by
    intro level level'
    rw [hcomponents, hcomponents]
    simp
  refine ⟨hcomponents, fun level level' => ⟨hstem level level', ?_⟩⟩
  constructor
  · intro h
    rw [← hstem, h]
  · intro h
    rw [solutionPath_eq, solutionPath_eq, toList_solutionStem, toList_solutionStem, h]

example : (({ solutionsDir := ⟨"."⟩ } : Config).solutionPath ⟨"/a/..b.tar.gz//./"⟩).text =
    "./..b.tar_solution.pyscript" := by
  rfl

end Gridwalk.Config
