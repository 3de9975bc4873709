import Gridwalk.Proofs.Level.Contents
import Gridwalk.Proofs.Level.Drawing
import Gridwalk.Proofs.Level.Fit
import Gridwalk.Proofs.Text.Lines
import Mathlib

/-!
# What a level document may hold

**Theorem (`Level.parse_lenient`).** A text that can be read and holds distinct fields of a level
document is loaded leniently (`LevelDocument.Lenient`).

* *Contents*: of each drawing the lines that are not blank are kept, and each character of a trimmed
  line stands for what it means, or for an empty cell and facing right if it means nothing.
* *Failure*: the document is refused only for the shape of its drawings.
* *Warnings*: there is one for each unknown field, one for a missing name, and one for each
  character without a meaning.

So nothing but the shape of the drawings decides whether there is a level and how large it is:
another name or script, other unknown fields, other symbols, and other characters in place of any
that are not blank make no difference (`LayoutText.Altered`). To see this for the characters, all
that are not blank are made the same (`mask`), which neither lines nor trimming can tell.
-/

namespace Gridwalk

/-! ## Other characters -/

/-- The same character, or another one where neither is blank. -/
def SameBlank (c c' : Char) : Prop := c = c' ∨ Text.isBlank c = false ∧ Text.isBlank c' = false

/-- Makes all characters the same that are not blank. -/
def mask (c : Char) : Char := if Text.isBlank c then c else 'x'

theorem isBlank_mask (c : Char) : Text.isBlank (mask c) = Text.isBlank c := by
  unfold mask
  split
  · rfl
  · next h =>
    rw [Bool.not_eq_true] at h
    rw [h]
    decide

theorem mask_eq_iff {b : Char} (hb : Text.isBlank b = true) (c : Char) : mask c = b ↔ c = b := by
  unfold mask
  split
  · rfl
  · next h =>
    refine iff_of_false ?_ ?_
    · rintro rfl
      cases hb
    · rintro rfl
      exact h hb

theorem SameBlank.mask_eq {c c' : Char} (h : SameBlank c c') : mask c = mask c' := by
  rcases h with rfl | ⟨hc, hc'⟩
  · rfl
  · simp [mask, hc, hc']

theorem map_mask_eq {cs cs' : List Char} (h : List.Forall₂ SameBlank cs cs') :
    cs.map mask = cs'.map mask := by
  induction h with
  | nil => rfl
  | cons hc _ ih => rw [List.map_cons, List.map_cons, hc.mask_eq, ih]

theorem trim_map_mask (cs : List Char) : Text.trim (cs.map mask) = (Text.trim cs).map mask := by
  have hblank : Text.isBlank ∘ mask = Text.isBlank := funext isBlank_mask
  rw [Text.trim, List.dropWhile_map, hblank, ← List.map_reverse, List.dropWhile_map, hblank,
    ← List.map_reverse, Text.trim]

theorem lines_map_mask (cs : List Char) :
    Text.lines (cs.map mask) = (Text.lines cs).map (List.map mask) := by
  have hfeed : Text.isBlank '\n' = true := by decide
  have hreturn : Text.isBlank '\r' = true := by decide
  induction cs with
  | nil => rfl
  | cons c cs ih =>
    have hhead : (cs.map mask).head? = some '\n' ↔ cs.head? = some '\n' := by
      cases cs with
      | nil => rfl
      | cons d cs => simp [mask_eq_iff hfeed]
    rw [List.map_cons, Text.lines, Text.lines, ih]
    simp only [mask_eq_iff hfeed, mask_eq_iff hreturn, hhead]
    split_ifs
    · rfl
    · rfl
    · cases Text.lines cs <;> rfl

theorem keptRows_map_mask (rows : List (List Char)) :
    Text.keptRows (rows.map (List.map mask)) = (Text.keptRows rows).map (List.map mask) := by
  have htrim : Text.trim ∘ List.map mask = List.map mask ∘ Text.trim := funext trim_map_mask
  rw [Text.keptRows, List.map_map, htrim, ← List.map_map, List.filter_map, Text.keptRows]
  congr 1
  apply List.filter_congr
  simp

namespace LayoutText

/-- The second drawing is the first one with other characters in place of some that are not
blank. -/
inductive Altered : LayoutText → LayoutText → Prop
  | text {s s' : String} (same : List.Forall₂ SameBlank s.toList s'.toList) :
      Altered (.text s) (.text s')
  | rows {ss ss' : List String}
      (same : List.Forall₂ (fun s s' => List.Forall₂ SameBlank s.toList s'.toList) ss ss') :
      Altered (.rows ss) (.rows ss')

theorem Altered.map_mask_lines {t t' : LayoutText} (h : Altered t t') :
    t.lines.map (List.map mask) = t'.lines.map (List.map mask) := by
  cases h with
  | text hsame =>
    rw [lines, lines, ← lines_map_mask, ← lines_map_mask, map_mask_eq hsame]
  | rows hsame =>
    rw [lines, lines]
    induction hsame with
    | nil => rfl
    | cons hs _ ih => simp only [List.map_cons, map_mask_eq hs, ih]

/-- The rows that are kept have the same lengths. -/
theorem Altered.map_length_trimmedRows {t t' : LayoutText} (h : Altered t t') :
    t.trimmedRows.map List.length = t'.trimmedRows.map List.length := by
  have hmasked : t.trimmedRows.map (List.map mask) = t'.trimmedRows.map (List.map mask) := by
    rw [trimmedRows_eq_keptRows, trimmedRows_eq_keptRows, ← keptRows_map_mask,
      ← keptRows_map_mask, h.map_mask_lines]
  have hlengths := congrArg (List.map List.length) hmasked
  simpa [Function.comp_def] using hlengths

end LayoutText

/-! ## Contents -/

namespace LevelDocument

variable {fs : List Field} {part : LayoutPart}

/-- The marks of a drawing: of each line that is not blank, what trimming leaves of it. -/
def marksOf (part : LayoutPart) (fs : List Field) : List (List Char) :=
  match drawingOf part fs with
  | none => []
  | some t => (t.lines.filter fun line => ¬ Text.Blanks line).map Text.trim

/-- The kinds of the tiles that are drawn. A character that is no symbol draws an empty cell. -/
def kindsOf (symbols : Symbols) (fs : List Field) : List (List TileKind) :=
  (marksOf .tiles fs).map fun row => row.map fun c => (symbols.kindOf? c).getD .empty

/-- The facings that are drawn. A character that is no letter of a direction stands for facing
right. -/
def facingsOf (fs : List Field) : List (List Direction) :=
  (marksOf .directions fs).map fun row => row.map fun c => (Direction.ofLetter? c).getD .right

theorem marksOf_eq_trimmedRows :
    marksOf part fs = ((drawingOf part fs).map LayoutText.trimmedRows).getD [] := by
  unfold marksOf
  cases drawingOf part fs with
  | none => rfl
  | some t =>
    rw [Option.map_some, Option.getD_some, t.trimmedRows_eq_keptRows, Text.keptRows,
      List.filter_map]
    refine congrArg (List.map Text.trim) (List.filter_congr fun line _ => ?_)
    simp [Text.trim_eq_nil_iff]

theorem readRows_drawingOf {α : Type} (meaning : Char → Option α) (fallback : α) :
    readRows meaning fallback (drawingOf part fs) =
      (marksOf part fs).map fun row => row.map fun c => (meaning c).getD fallback := by
  rw [marksOf_eq_trimmedRows]
  cases drawingOf part fs <;> rfl

theorem length_unreadable_drawingOf {α : Type} (meaning : Char → Option α) :
    (unreadable meaning (drawingOf part fs)).length =
      (marksOf part fs).flatten.countP fun c => (meaning c).isNone := by
  rw [marksOf_eq_trimmedRows, List.countP_eq_length_filter]
  cases drawingOf part fs <;> rfl

/-- Altered drawings have rows of the same lengths. -/
theorem map_length_marksOf {fs' : List Field}
    (h : Option.Rel LayoutText.Altered (drawingOf part fs) (drawingOf part fs')) :
    (marksOf part fs).map List.length = (marksOf part fs').map List.length := by
  rw [marksOf_eq_trimmedRows, marksOf_eq_trimmedRows]
  generalize drawingOf part fs = t at h ⊢
  generalize drawingOf part fs' = t' at h ⊢
  cases h with
  | none => rfl
  | some haltered => exact haltered.map_length_trimmedRows

/-! ## Levels and warnings -/

/-- The outcome and the records are those of a lenient reading of the fields. -/
structure Lenient (symbols : Symbols) (fs : List Field) (outcome : Except LoadError Level)
    (records : List LogRecord) : Prop where
  drawn : ∀ l, outcome = .ok l → l.layout = kindsOf symbols fs ∧ l.directions = facingsOf fs
  loads : (∃ l, outcome = .ok l) ↔ Fit (kindsOf symbols fs) (facingsOf fs)
  fails : ∀ e, outcome = .error e ↔
    ∃ cause, e = .misshapen cause ∧ Misfit (kindsOf symbols fs) (facingsOf fs) cause
  warns : ∀ r ∈ records, r.severity = .warn
  count : records.length = (otherKeys fs).toFinset.card + (if nameOf fs = none then 1 else 0) +
    ((marksOf .tiles fs).flatten.countP fun c => (symbols.kindOf? c).isNone) +
    (marksOf .directions fs).flatten.countP fun c => (Direction.ofLetter? c).isNone

variable (symbols : Symbols) (directory : Option Path)

theorem level_foldl_put (hdistinct : Distinct fs) :
    (fs.foldl put {}).level directory symbols =
      Level.ofParts ((nameOf fs).getD unnamed) ((fs.foldl put {}).scriptFrom directory)
        (kindsOf symbols fs) (facingsOf fs) := by
  rw [level, name_foldl_put hdistinct, layout_foldl_put hdistinct, directions_foldl_put hdistinct,
    readRows_drawingOf, readRows_drawingOf, kindsOf, facingsOf]

theorem length_warnings_foldl_put (hdistinct : Distinct fs) :
    ((fs.foldl put {}).warnings symbols).length =
      (otherKeys fs).toFinset.card + (if nameOf fs = none then 1 else 0) +
        ((marksOf .tiles fs).flatten.countP fun c => (symbols.kindOf? c).isNone) +
        (marksOf .directions fs).flatten.countP fun c => (Direction.ofLetter? c).isNone := by
  rw [warnings, name_foldl_put hdistinct, layout_foldl_put hdistinct,
    directions_foldl_put hdistinct]
  simp only [List.length_append, List.length_map, length_keys_extra, length_unreadable_drawingOf,
    Option.isNone_iff_eq_none]
  congr 3
  split_ifs <;> rfl

end LevelDocument

namespace Level

open Json LevelDocument

/-- How large a level is. -/
def size (l : Level) : Nat × Nat := (l.width, l.height)

/-- The size of a level is that of its layout. -/
theorem map_size_ofParts (name : String) (script : Option Path) (layout : List (List TileKind))
    (directions : List (List Direction)) :
    (ofParts name script layout directions).map size =
      (checkShape layout directions).map fun _ => (rowWidth layout, layout.length) := by
  unfold ofParts
  split <;> simp [*, Except.map, size, width, height]

variable {fs : List Field} {text : String}

theorem lenient_parse (hdistinct : Distinct fs) (htext : decodeValue.run text = .ok (value fs))
    (directory : Option Path) (symbols : Symbols) :
    Lenient symbols fs (Level.parse text directory symbols).1
      (Level.parse text directory symbols).2 := by
  rw [parse_of_run (run_of_decodeValue hdistinct htext),
    level_foldl_put symbols directory hdistinct]
  constructor
  case drawn =>
    intro l hl
    exact (parts_of_ofParts (mapError_eq_ok_iff.1 hl)).2.2
  case loads =>
    simp only [mapError_eq_ok_iff]
    exact exists_ofParts_iff
  case fails =>
    intro e
    simp only [mapError_eq_error_iff, ofParts_eq_error_iff]
  case warns =>
    intro r hr
    obtain ⟨w, -, rfl⟩ := List.mem_map.1 hr
    rfl
  case count =>
    rw [List.length_map]
    exact length_warnings_foldl_put symbols hdistinct

theorem map_size_parse (hdistinct : Distinct fs) (htext : decodeValue.run text = .ok (value fs))
    (directory : Option Path) (symbols : Symbols) :
    (Level.parse text directory symbols).1.map size =
      ((checkShape (kindsOf symbols fs) (facingsOf fs)).map fun _ =>
        (rowWidth (kindsOf symbols fs), (kindsOf symbols fs).length)).mapError .misshapen := by
  rw [parse_of_run (run_of_decodeValue hdistinct htext),
    level_foldl_put symbols directory hdistinct,
    ← map_size_ofParts ((nameOf fs).getD unnamed) ((fs.foldl put {}).scriptFrom directory)]
  cases ofParts ((nameOf fs).getD unnamed) ((fs.foldl put {}).scriptFrom directory)
    (kindsOf symbols fs) (facingsOf fs) <;> rfl

theorem map_length_kindsOf (symbols : Symbols) :
    (kindsOf symbols fs).map List.length = (marksOf .tiles fs).map List.length := by
  simp [kindsOf, Function.comp_def]

theorem map_length_facingsOf :
    (facingsOf fs).map List.length = (marksOf .directions fs).map List.length := by
  simp [facingsOf, Function.comp_def]

/-- **Leniency.** A text that can be read and holds distinct fields is loaded leniently, and any
other such text with the same drawings, up to other characters in place of some that are not blank,
is loaded with the same size or refused for the same reason. -/
theorem parse_lenient (hdistinct : Distinct fs) (htext : decodeValue.run text = .ok (value fs))
    (directory : Option Path) (symbols : Symbols) :
    Lenient symbols fs (Level.parse text directory symbols).1
        (Level.parse text directory symbols).2 ∧
      ∀ fs' text' directory' symbols', Distinct fs' →
        decodeValue.run text' = .ok (value fs') →
        (∀ part, Option.Rel LayoutText.Altered (drawingOf part fs) (drawingOf part fs')) →
        (Level.parse text' directory' symbols').1.map size =
          (Level.parse text directory symbols).1.map size := by
  refine ⟨lenient_parse hdistinct htext directory symbols, ?_⟩
  intro fs' text' directory' symbols' hdistinct' htext' haltered
  have hkinds : (kindsOf symbols' fs').map List.length = (kindsOf symbols fs).map List.length := by
    rw [map_length_kindsOf, map_length_kindsOf, map_length_marksOf (haltered .tiles)]
  have hfacings : (facingsOf fs').map List.length = (facingsOf fs).map List.length := by
    rw [map_length_facingsOf, map_length_facingsOf, map_length_marksOf (haltered .directions)]
  have hheight : (kindsOf symbols' fs').length = (kindsOf symbols fs).length := by
    simpa using congrArg List.length hkinds
  rw [map_size_parse hdistinct' htext', map_size_parse hdistinct htext,
    checkShape_congr hkinds hfacings, rowWidth_eq_head?, rowWidth_eq_head?, hkinds, hheight]

end Level

namespace Courtyard

open Json LevelDocument

/-- No character of the drawing is a standard symbol. With the field that no level has and the
missing name there are six warnings about the courtyard, and all its cells are empty. -/
theorem parse_with_standard_symbols :
    (Level.parse text none .standard).2.length = 6 ∧
      ∃ l, (Level.parse text none .standard).1 = .ok l ∧
        l.layout = [[.empty, .empty], [.empty, .empty]] ∧
        l.directions = [[.right, .up], [.down, .left]] := by
  have hread := decodeValue_of_writtenAs written (by decide)
  have h := (Level.parse_lenient fitting.distinct hread none .standard).1
  obtain ⟨l, hl⟩ := h.loads.2 ⟨2, by decide, by decide, by decide⟩
  exact ⟨h.count.trans (by decide), l, hl, h.drawn l hl⟩

end Courtyard

end Gridwalk
