import Gridwalk.Proofs.Level.Document
import Gridwalk.Proofs.Table
import Gridwalk.Proofs.Text.Trimming
import Mathlib

/-!
# What the fields of a document say

The name of a document and its drawings are what the fields say, in whatever order they come. A
field that is missing says as little as one that is null. As no field of a level comes twice, it
does not matter that they are entered one after another (`LevelDocument.part_foldl_put`). The
fields that no level has are gathered under their names, each name once
(`LevelDocument.length_keys_extra`).
-/

namespace Gridwalk

/-- The lines of a drawing: those of the text, or the items of the array. -/
def LayoutText.lines : LayoutText → List (List Char)
  | .text s => Text.lines s.toList
  | .rows ss => ss.map String.toList

theorem LayoutText.trimmedRows_eq_keptRows (t : LayoutText) :
    t.trimmedRows = Text.keptRows t.lines := by
  cases t <;> rfl

namespace LevelDocument

/-! ## Names and drawings -/

/-- What a field says about the name. -/
def Field.name? : Field → Option (Option String)
  | .name s => some s
  | _ => none

/-- What a field says about a drawing. -/
def Field.drawing? : LayoutPart → Field → Option (Option LayoutText)
  | .tiles, .layout t => some t
  | .directions, .directions t => some t
  | _, _ => none

/-- The name that the fields give. -/
def nameOf (fs : List Field) : Option String := (fs.findSome? Field.name?).getD none

/-- The drawing that the fields give for a part. -/
def drawingOf (part : LayoutPart) (fs : List Field) : Option LayoutText :=
  (fs.findSome? (Field.drawing? part)).getD none

section Part

variable {α : Type} {fs : List Field} {part : LevelDocument → α}
  (part? : Field → Option α) (key : String)

/-- A part of the document that is set by the fields of one key only is what the first of these
says. -/
theorem part_foldl_put (hput : ∀ d f, part (d.put f) = (part? f).getD (part d))
    (hkey : ∀ f, (part? f).isSome → f.entry.1 = key) (hown : key ∈ ownNames)
    (hdistinct : Distinct fs) (d : LevelDocument) :
    part (fs.foldl put d) = (fs.findSome? part?).getD (part d) := by
  induction fs generalizing d with
  | nil => rfl
  | cons f fs ih =>
    obtain ⟨honce, hrest⟩ := List.pairwise_cons.1 hdistinct.once
    have hdistinct' : Distinct fs :=
      ⟨fun key v hmem => hdistinct.others key v (List.mem_cons_of_mem _ hmem), hrest⟩
    rw [List.foldl_cons, ih hdistinct', hput, List.findSome?_cons]
    cases hf : part? f with
    | none => rfl
    | some a =>
      have hfirst : f.entry.1 = key := hkey f (by rw [hf]; rfl)
      have hlater : fs.findSome? part? = none := by
        rw [List.findSome?_eq_none_iff]
        intro f' hf'
        by_contra hsome
        have hsame := hkey f' (Option.isSome_iff_ne_none.2 hsome)
        exact honce f' hf' (hfirst ▸ hown) (hfirst.trans hsame.symm)
      rw [hlater]
      rfl

end Part

variable {fs : List Field}

theorem name_foldl_put (hdistinct : Distinct fs) : (fs.foldl put {}).name = nameOf fs := by
  refine part_foldl_put Field.name? "name" ?_ ?_ ?_ hdistinct {}
  · intro d f
    cases f <;> rfl
  · intro f hf
    cases f with
    | name s => rfl
    | script | layout | directions | extra => cases hf
  · simp [ownNames, shape]

theorem layout_foldl_put (hdistinct : Distinct fs) :
    (fs.foldl put {}).layout = drawingOf .tiles fs := by
  refine part_foldl_put (Field.drawing? .tiles) "layout" ?_ ?_ ?_ hdistinct {}
  · intro d f
    cases f <;> rfl
  · intro f hf
    cases f with
    | layout t => rfl
    | name | script | directions | extra => cases hf
  · simp [ownNames, shape]

theorem directions_foldl_put (hdistinct : Distinct fs) :
    (fs.foldl put {}).directions = drawingOf .directions fs := by
  refine part_foldl_put (Field.drawing? .directions) "direction_layout" ?_ ?_ ?_ hdistinct {}
  · intro d f
    cases f <;> rfl
  · intro f hf
    cases f with
    | directions t => rfl
    | name | script | layout | extra => cases hf
  · simp [ownNames, shape]

/-! ## Fields of other names -/

/-- The names of the fields that no level has. -/
def otherKeys (fs : List Field) : List String :=
  fs.filterMap fun
    | .extra key _ => some key
    | _ => none

theorem mem_keys_extra_iff {key : String} (d : LevelDocument) :
    key ∈ (fs.foldl put d).extra.keys ↔ key ∈ d.extra.keys ∨ key ∈ otherKeys fs := by
  induction fs generalizing d with
  | nil => simp [otherKeys]
  | cons f fs ih =>
    rw [List.foldl_cons, ih]
    cases f with
    | extra key' v =>
      have hkeys : key ∈ (d.put (.extra key' v)).extra.keys ↔ key = key' ∨ key ∈ d.extra.keys :=
        Table.mem_keys_insert
      rw [hkeys]
      simp only [otherKeys, List.filterMap_cons, List.mem_cons]
      tauto
    | name | script | layout | directions => rfl

/-- Each name of a field that no level has is a key once. -/
theorem length_keys_extra (fs : List Field) :
    (fs.foldl put {}).extra.keys.length = (otherKeys fs).toFinset.card := by
  have hnodup : (fs.foldl put {}).extra.keys.Nodup := Table.nodup_keys _
  rw [← List.toFinset_card_of_nodup hnodup]
  congr 1
  ext key
  rw [List.mem_toFinset, List.mem_toFinset, mem_keys_extra_iff]
  simp [Table.keys, Table.empty]

end LevelDocument

end Gridwalk
