import Gridwalk.Level.Load
import Gridwalk.Proofs.Level.Drawing
import Gridwalk.Proofs.Text.Lines
import Mathlib

/-!
# Drawings written differently

The rows of a drawing can be written in many ways (`LayoutText.Writes`): as an array or as one text
with line breaks of either kind, with blanks around each row, and with blank rows anywhere.

**Theorem (`Level.parse_rewritten`).** A level document is loaded with the same outcome and the same
records if each of its drawings is written in another way.

However the rows are written, the same ones are kept of them (`LayoutText.Writes.trimmedRows`), and
only these decide about the level, about the row that a complaint names and about the warnings.
-/

namespace Gridwalk

/-! ## Ways of writing rows -/

/-- Blanks that can stand beside a row, or instead of one. -/
def Margin (w : List Char) : Prop := Text.Blanks w ∧ '\n' ∉ w

instance (w : List Char) : Decidable (Margin w) := inferInstanceAs (Decidable (_ ∧ _))

/-- The second rows are the first ones with margins, and with blank rows anywhere. -/
inductive Padded : List (List Char) → List (List Char) → Prop
  | nil : Padded [] []
  | blank {w : List Char} {rows rows' : List (List Char)} (isBlank : Margin w)
      (rest : Padded rows rows') : Padded rows (w :: rows')
  | row {w row w' : List Char} {rows rows' : List (List Char)} (left : Margin w) (right : Margin w')
      (rest : Padded rows rows') : Padded (row :: rows) ((w ++ row ++ w') :: rows')

theorem Padded.refl (rows : List (List Char)) : Padded rows rows := by
  have hnone : Margin [] := by decide
  induction rows with
  | nil => exact .nil
  | cons row rows ih =>
    have hrow : Padded (row :: rows) (([] ++ row ++ []) :: rows) := .row hnone hnone ih
    rwa [List.nil_append, List.append_nil] at hrow

theorem Padded.keptRows {rows rows' : List (List Char)} (h : Padded rows rows') :
    Text.keptRows rows' = Text.keptRows rows := by
  induction h with
  | nil => rfl
  | blank hw _ ih => rw [Text.keptRows_cons_of_blanks hw.1, ih]
  | row hleft hright _ ih =>
    refine Text.keptRows_cons_congr ?_ ih
    rw [Text.trim_append_blanks hright.1, Text.trim_blanks_append hleft.1]

theorem Padded.notMem {rows rows' : List (List Char)} (h : Padded rows rows')
    (hrows : ∀ row ∈ rows, '\n' ∉ row) : ∀ row ∈ rows', '\n' ∉ row := by
  induction h with
  | nil => exact hrows
  | blank hw _ ih => exact List.forall_mem_cons.2 ⟨hw.2, ih hrows⟩
  | row hleft hright _ ih =>
    obtain ⟨hrow, hrest⟩ := List.forall_mem_cons.1 hrows
    refine List.forall_mem_cons.2 ⟨?_, ih hrest⟩
    simp [hleft.2, hrow, hright.2]

namespace LayoutText

/-- The drawing is a way of writing the rows: as an array, or line by line. -/
inductive Writes (rows : List String) : LayoutText → Prop
  | rows {written : List String}
      (padded : Padded (rows.map String.toList) (written.map String.toList)) :
      Writes rows (.rows written)
  | text {written : List (List Char)} {s : String}
      (padded : Padded (rows.map String.toList) written) (inLines : Text.InLines written s.toList) :
      Writes rows (.text s)

variable {rows : List String} {t t' : LayoutText}

theorem writes_rows (rows : List String) : Writes rows (.rows rows) := .rows (.refl _)

/-- However rows are written, the same ones are kept. -/
theorem Writes.trimmedRows (h : Writes rows t) (hrows : ∀ row ∈ rows, '\n' ∉ row.toList) :
    t.trimmedRows = Text.keptRows (rows.map String.toList) := by
  cases h with
  | rows hpadded => exact hpadded.keptRows
  | text hpadded hlines =>
    have hwritten := hpadded.notMem (by simpa using hrows)
    exact (Text.keptRows_lines hlines hwritten).trans hpadded.keptRows

end LayoutText

/-! ## Documents -/

namespace LevelDocument

/-- The second field is the first one, or it writes the same drawing. -/
inductive Field.Rewritten : Field → Field → Prop
  | same (f : Field) : Rewritten f f
  | drawing (part : LayoutPart) {rows : List String} {t t' : LayoutText}
      (inRows : ∀ row ∈ rows, '\n' ∉ row.toList) (first : t.Writes rows) (second : t'.Writes rows) :
      Rewritten (.drawing part (some t)) (.drawing part (some t'))

/-- Two documents say the same, and the same rows are kept of their drawings. -/
structure Alike (d d' : LevelDocument) : Prop where
  name : d.name = d'.name
  script : d.script = d'.script
  extra : d.extra = d'.extra
  layout : d.layout.map LayoutText.trimmedRows = d'.layout.map LayoutText.trimmedRows
  directions : d.directions.map LayoutText.trimmedRows = d'.directions.map LayoutText.trimmedRows

namespace Alike

variable {d d' : LevelDocument} {f f' : Field} {fs fs' : List Field}

theorem put (h : Alike d d') (hf : f.Rewritten f') : Alike (d.put f) (d'.put f') := by
  obtain ⟨hname, hscript, hextra, hlayout, hdirections⟩ := h
  cases hf with
  | same => cases f <;> constructor <;> simp [LevelDocument.put, *]
  | drawing part hrows hfirst hsecond =>
    have hkept := (hfirst.trimmedRows hrows).trans (hsecond.trimmedRows hrows).symm
    cases part <;> constructor <;> simp [LevelDocument.put, Field.drawing, *]

theorem foldl_put (h : Alike d d') (hfs : List.Forall₂ Field.Rewritten fs fs') :
    Alike (fs.foldl LevelDocument.put d) (fs'.foldl LevelDocument.put d') := by
  induction hfs generalizing d d' with
  | nil => exact h
  | cons hf _ ih => exact ih (h.put hf)

/-- Only the rows that are kept are read. -/
theorem readRows_congr {α : Type} {meaning : Char → Option α} {fallback : α}
    {t t' : Option LayoutText} (h : t.map LayoutText.trimmedRows = t'.map LayoutText.trimmedRows) :
    readRows meaning fallback t = readRows meaning fallback t' := by
  cases t <;> cases t' <;> simp_all [readRows]

theorem unreadable_congr {α : Type} {meaning : Char → Option α}
    {t t' : Option LayoutText} (h : t.map LayoutText.trimmedRows = t'.map LayoutText.trimmedRows) :
    unreadable meaning t = unreadable meaning t' := by
  cases t <;> cases t' <;> simp_all [unreadable]

theorem level (h : Alike d d') (directory : Option Path) (symbols : Symbols) :
    d.level directory symbols = d'.level directory symbols := by
  rw [LevelDocument.level, LevelDocument.level, scriptFrom, scriptFrom, h.name, h.script,
    readRows_congr h.layout, readRows_congr h.directions]

theorem warnings (h : Alike d d') (symbols : Symbols) :
    d.warnings symbols = d'.warnings symbols := by
  rw [LevelDocument.warnings, LevelDocument.warnings, h.extra, h.name, unreadable_congr h.layout,
    unreadable_congr h.directions]

end Alike

/-! ## Distinct fields -/

namespace Field.Rewritten

variable {f f' : Field}

theorem entry_fst (h : f.Rewritten f') : f'.entry.1 = f.entry.1 := by
  cases h with
  | same => rfl
  | drawing part => cases part <;> rfl

theorem eq_of_extra {key : String} {v : Json.Value} (h : f.Rewritten (.extra key v)) :
    f = .extra key v := by
  generalize hf' : Field.extra key v = f' at h
  cases h with
  | same => rfl
  | drawing part => cases part <;> cases hf'

end Field.Rewritten

section Fields

variable {fs fs' : List Field} (h : List.Forall₂ Field.Rewritten fs fs')

include h

theorem map_key_of_rewritten : fs'.map (·.entry.1) = fs.map (·.entry.1) := by
  induction h with
  | nil => rfl
  | cons hf _ ih => rw [List.map_cons, List.map_cons, hf.entry_fst, ih]

theorem mem_of_rewritten {key : String} {v : Json.Value} (hmem : .extra key v ∈ fs') :
    .extra key v ∈ fs := by
  induction h with
  | nil => exact hmem
  | cons hf _ ih =>
    rcases List.mem_cons.1 hmem with rfl | hmem
    · rw [hf.eq_of_extra]
      exact List.mem_cons_self
    · exact List.mem_cons_of_mem _ (ih hmem)

/-- Distinct fields still are with their drawings written in another way. -/
theorem Distinct.rewritten (hdistinct : Distinct fs) : Distinct fs' := by
  refine ⟨fun key v hmem => hdistinct.others key v (mem_of_rewritten h hmem), ?_⟩
  have honce := hdistinct.once
  rw [← List.pairwise_map (f := fun f : Field => f.entry.1)
    (R := fun key key' => key ∈ ownNames → key ≠ key')] at honce ⊢
  rwa [map_key_of_rewritten h]

end Fields

end LevelDocument

/-! ## Levels -/

namespace Level

open Json LevelDocument

/-- **Other writings.** A text with the same fields except that drawings are written in another way
is loaded with the same outcome and the same records; the outcome is a level or a complaint about
its shape. -/
theorem parse_rewritten {fs fs' : List Field} (hdistinct : Distinct fs)
    (hrewritten : List.Forall₂ Field.Rewritten fs fs') {text text' : String}
    (htext : decodeValue.run text = .ok (value fs))
    (htext' : decodeValue.run text' = .ok (value fs')) (directory : Option Path)
    (symbols : Symbols) :
    Level.parse text' directory symbols = Level.parse text directory symbols ∧
      ∀ e, (Level.parse text directory symbols).1 = .error e → ∃ cause, e = .misshapen cause := by
  have hdistinct' : Distinct fs' := Distinct.rewritten hrewritten hdistinct
  have hparse := parse_of_run (run_of_decodeValue hdistinct htext) directory symbols
  have hparse' := parse_of_run (run_of_decodeValue hdistinct' htext') directory symbols
  have halike : Alike (fs.foldl put {}) (fs'.foldl put {}) :=
    Alike.foldl_put ⟨rfl, rfl, rfl, rfl, rfl⟩ hrewritten
  constructor
  · rw [hparse, hparse', halike.level, halike.warnings]
  · intro e he
    rw [hparse, mapError_eq_error_iff] at he
    obtain ⟨cause, rfl, -⟩ := he
    exact ⟨cause, rfl⟩

end Level

namespace Courtyard

open Json LevelDocument

/-- The fields of the courtyard with other writings of both drawings. -/
def rewrittenFields : List Field :=
  [.layout (some (.text "\t#@\r\n\n .# ")), .extra "author" (.array [.null]),
    .directions (some (.rows ["RU", "", " DL"]))]

def rewrittenText : String :=
  "\x7b\"layout\": \"\\t#@\\r\\n\\n .# \", \"author\": [null], " ++
    "\"direction_layout\": [\"RU\", \"\", \" DL\"]\x7d"

theorem fields_rewritten : List.Forall₂ Field.Rewritten fields rewrittenFields := by
  have hnone : Margin [] := by decide
  have hspace : Margin [' '] := by decide
  have htab : Margin ['\t'] := by decide
  have hlayout : (LayoutText.text "\t#@\r\n\n .# ").Writes ["#@", ".#"] :=
    .text (.row htab hnone (.blank hnone (.row hspace hspace .nil)))
      (.returnFeed ['\t', '#', '@'] (.feed [] (.last [' ', '.', '#', ' '])))
  have hdirections : (LayoutText.text "RU\nDL").Writes ["RU", "DL"] :=
    .text (.refl _) (.feed ['R', 'U'] (.last ['D', 'L']))
  have hdirections' : (LayoutText.rows ["RU", "", " DL"]).Writes ["RU", "DL"] :=
    .rows (.row hnone hnone (.blank hnone (.row hspace hnone .nil)))
  exact .cons (.drawing .tiles (by decide) (LayoutText.writes_rows _) hlayout)
    (.cons (.same _) (.cons (.drawing .directions (by decide) hdirections hdirections') .nil))

theorem rewritten_written : (value rewrittenFields).WrittenAs rewrittenText := by
  have hnone : Spaces [] := by decide
  have hspace : Spaces [' '] := by decide
  have hlayout : Spelled (.string (String.ofList
      ['\t', '#', '@', '\r', '\n', '\n', ' ', '.', '#', ' '])) _ :=
    .string (.escape (e := 't') rfl (.append ['#', '@'] rfl
      (.escape (e := 'r') rfl (.escape (e := 'n') rfl (.escape (e := 'n') rfl
        (.append [' ', '.', '#', ' '] rfl .close))))))
  have hauthor : Spelled (.array [.null]) _ := .array hnone (.last .null hnone)
  have hdirections : Spelled (.array [.string "RU", .string "", .string " DL"]) _ :=
    .array hnone (.next (spelled_of_plain "RU" rfl) hnone hspace
      (.next (spelled_of_plain "" rfl) hnone hspace (.last (spelled_of_plain " DL" rfl) hnone)))
  have hfields : Spelled (value rewrittenFields) _ :=
    .object hnone (.next (fieldText_of_plain "layout" rfl hnone hspace hlayout) hnone hspace
      (.next (fieldText_of_plain "author" rfl hnone hspace hauthor) hnone hspace
        (.last (fieldText_of_plain "direction_layout" rfl hnone hspace hdirections) hnone)))
  exact ⟨[], _, [], rfl, hnone, hfields, hnone⟩

theorem parse_rewrittenText :
    Level.parse rewrittenText none symbols = Level.parse text none symbols := by
  have hread := decodeValue_of_writtenAs written (by decide)
  have hread' := decodeValue_of_writtenAs rewritten_written (by decide)
  exact (Level.parse_rewritten fitting.distinct fields_rewritten hread hread' none symbols).1

end Courtyard

end Gridwalk
