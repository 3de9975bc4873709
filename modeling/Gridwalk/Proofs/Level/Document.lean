import Gridwalk.Level.Load
import Gridwalk.Proofs.Json.Reading
import Gridwalk.Proofs.Outcome
import Mathlib

/-!
# Documents that give their fields back

A level document is written as an object with one entry for each of its fields
(`LevelDocument.value`). The fields fit into one document if none that a level has comes twice, and
all others have names of their own and values that are not nested too deep. A text of such an
object decodes to these fields, entered one after another (`LevelDocument.run_of_writtenAs`), so
that each drawing is the one that was given (`LevelDocument.drawing_foldl_put`). For a text that is
known to be readable it is enough that the fields are distinct (`LevelDocument.run_of_decodeValue`).
-/

namespace Gridwalk

open Json

/-! ## Drawings -/

/-- The value that gives a drawing. -/
def LayoutText.value : LayoutText → Value
  | .text s => .string s
  | .rows ss => .array (ss.map .string)

namespace LayoutText

theorem ofValue?_value (t : LayoutText) : ofValue? t.value = some t := by
  cases t with
  | text s => rfl
  | rows ss =>
    have hitems : stringItems? (ss.map .string) = some ss := by
      induction ss with
      | nil => rfl
      | cons s ss ih =>
        rw [stringItems?, List.map_cons, List.mapM_cons, ← stringItems?, ih]
        rfl
    rw [value, ofValue?, hitems]
    rfl

theorem depth_value_le (t : LayoutText) : t.value.depth ≤ 1 := by
  cases t with
  | text s => exact Nat.zero_le 1
  | rows ss =>
    have hitems : itemsDepth (ss.map .string) = 0 := by
      induction ss with
      | nil => rfl
      | cons s ss ih => rw [List.map_cons, itemsDepth, ih]; rfl
    rw [value, Value.depth, hitems]

theorem decode_value (t : LayoutText) {n : Nat} (h : 1 ≤ n) :
    decode n t.value.reading = .ok t := by
  have hvalue : decodeValue n t.value.reading = .ok t.value := by
    rw [decodeValue, Value.value_reading (t.depth_value_le.trans h)]
    rfl
  simp [decode, hvalue, ofValue?_value, bind, Except.bind, pure, Except.pure]

end LayoutText

/-! ## Fields -/

namespace LevelDocument

/-- The names of the fields that a level has. -/
def ownNames : List String := shape.known.map Prod.fst

namespace Field

/-- The entry of a field: its name and its value. -/
def entry : Field → String × Value
  | .name s => ("name", nullable .string s)
  | .script p => ("pyscript_path", nullable (fun p => .string p.text) p)
  | .layout t => ("layout", nullable LayoutText.value t)
  | .directions t => ("direction_layout", nullable LayoutText.value t)
  | .extra key v => (key, v)

/-- The field can be read: one that no level has is named otherwise and is not nested too deep. -/
def Readable : Field → Prop
  | .extra key v => key ∉ ownNames ∧ v.depth < maxDepth
  | _ => True

end Field

/-- The fields fit into one document: each can be read, and none that a level has comes twice. -/
structure Fitting (fs : List Field) : Prop where
  readable : ∀ f ∈ fs, f.Readable
  once : fs.Pairwise fun f f' => f.entry.1 ∈ ownNames → f.entry.1 ≠ f'.entry.1

/-- The object that holds the fields. -/
def value (fs : List Field) : Value := .object (fs.map Field.entry)

/-! ## Decoding -/

variable {f : Field} {fs : List Field} {n : Nat}

/-- A field is taken from its entry. -/
theorem takes_entry (hf : f.Readable) (hn : maxDepth = n + 1) :
    shape.Takes n f.entry (some f) := by
  have hdrawing (t : Option LayoutText) :
      decodeOption LayoutText.decode n (nullable LayoutText.value t).reading = .ok t := by
    have hdepth : 1 ≤ n := by
      rw [maxDepth] at hn
      omega
    refine decodeOption_nullable (fun t => t.decode_value hdepth) (fun t => ?_) t
    cases t <;> simp [LayoutText.value, Value.reading]
  cases f with
  | name s => exact .known rfl (by cases s <;> rfl)
  | script p => exact .known rfl (by cases p <;> rfl)
  | layout t => exact .known rfl (congrArg (Field.layout <$> ·) (hdrawing t))
  | directions t => exact .known rfl (congrArg (Field.directions <$> ·) (hdrawing t))
  | extra key v =>
    have hv : v.depth ≤ n := by
      have hdepth := hf.2
      omega
    refine .other hf.1 ?_
    simp [shape, decodeValue, Value.value_reading hv, unread, Functor.map, Except.map]

/-- The fields of a document are decoded one by one. -/
theorem decodeFields_entries (hfit : Fitting fs) (hn : maxDepth = n + 1) :
    decodeFields shape n [] (fieldReadings (fs.map Field.entry)) = .ok fs := by
  have htakes : List.Forall₂ (shape.Takes n) (fs.map Field.entry) (fs.map some) := by
    rw [List.forall₂_map_left_iff, List.forall₂_map_right_iff, List.forall₂_same]
    exact fun f hf => takes_entry (hfit.readable f hf) hn
  rw [decodeFields_of_takes htakes (List.pairwise_map.2 hfit.once) (by simp)]
  simp [List.reduceOption, List.filterMap_map]

theorem decode_reading (hfit : Fitting fs) :
    LevelDocument.decode maxDepth (value fs).reading = .ok (fs.foldl put {}) := by
  have hfields : decodeFields shape 126 [] (fieldReadings (fs.map Field.entry)) = .ok fs :=
    decodeFields_entries hfit rfl
  rw [value, Value.reading, decode, decodeObject]
  simp [maxDepth, enter, unread, hfields, bind, Except.bind, pure, Except.pure]

/-- A text of fields that fit into one document decodes to these fields. -/
theorem run_of_writtenAs (hfit : Fitting fs) {text : String}
    (htext : (value fs).WrittenAs text) :
    LevelDocument.decode.run text = .ok (fs.foldl put {}) := by
  rw [Decoder.run_of_writtenAs _ htext, decode_reading hfit]

/-! ## Fields of a text -/

/-- No field that a level has comes twice, and all others have names of their own. -/
structure Distinct (fs : List Field) : Prop where
  others : ∀ key v, .extra key v ∈ fs → key ∉ ownNames
  once : fs.Pairwise fun f f' => f.entry.1 ∈ ownNames → f.entry.1 ≠ f'.entry.1

theorem Fitting.distinct (hfit : Fitting fs) : Distinct fs :=
  ⟨fun key v hmem => (hfit.readable (.extra key v) hmem).1, hfit.once⟩

/-- Distinct fields fit into one document if a text that holds them can be read. -/
theorem Distinct.fitting (hdistinct : Distinct fs) (hdepth : (value fs).depth ≤ maxDepth) :
    Fitting fs := by
  refine ⟨fun f hf => ?_, hdistinct.once⟩
  cases f with
  | extra key v =>
    have hentry : (key, v) ∈ fs.map Field.entry := List.mem_map_of_mem hf
    have hv : v.depth < (value fs).depth := Nat.lt_succ_of_le (depth_le_fieldsDepth hentry)
    exact ⟨hdistinct.others key v hf, hv.trans_le hdepth⟩
  | name | script | layout | directions => trivial

/-- A text that can be read and holds distinct fields decodes to these fields. -/
theorem run_of_decodeValue (hdistinct : Distinct fs) {text : String}
    (htext : decodeValue.run text = .ok (value fs)) :
    LevelDocument.decode.run text = .ok (fs.foldl put {}) := by
  obtain ⟨hrun, hdepth⟩ := Decoder.run_of_decodeValue LevelDocument.decode htext
  rw [hrun, decode_reading (hdistinct.fitting hdepth)]

/-! ## Drawings of a document -/

/-- The drawing that a document gives for a part. -/
def drawing (d : LevelDocument) : LayoutPart → Option LayoutText
  | .tiles => d.layout
  | .directions => d.directions

/-- The field that gives the drawing of a part. -/
def Field.drawing (part : LayoutPart) (t : Option LayoutText) : Field :=
  match part with
  | .tiles => .layout t
  | .directions => .directions t

variable (part : LayoutPart) {t : Option LayoutText}

theorem drawing_put (d : LevelDocument) : (d.put (.drawing part t)).drawing part = t := by
  cases part <;> rfl

/-- A field of another name does not touch a drawing. -/
theorem drawing_put_of_ne (d : LevelDocument) (h : (Field.drawing part t).entry.1 ≠ f.entry.1) :
    (d.put f).drawing part = d.drawing part := by
  cases part <;> cases f <;> first | rfl | exact absurd rfl h

theorem drawing_own : (Field.drawing part t).entry.1 ∈ ownNames := by
  cases part <;> simp [ownNames, shape, Field.drawing, Field.entry]

/-- A drawing that is given is the drawing of the document. -/
theorem drawing_foldl_put (hfit : Fitting fs) (hmem : .drawing part t ∈ fs) (d : LevelDocument) :
    (fs.foldl put d).drawing part = t := by
  induction fs using List.reverseRecOn with
  | nil => simp at hmem
  | append_singleton fs f ih =>
    obtain ⟨hinit, -, hlast⟩ := List.pairwise_append.1 hfit.once
    rw [List.foldl_append, List.foldl_cons, List.foldl_nil]
    rcases List.mem_append.1 hmem with hmem | hmem
    · have hne := hlast _ hmem f (List.mem_singleton_self f) (drawing_own part)
      rw [drawing_put_of_ne part _ hne]
      have hreadable : ∀ f ∈ fs, f.Readable := fun f hf =>
        hfit.readable f (List.mem_append_left _ hf)
      exact ih ⟨hreadable, hinit⟩ hmem
    · rw [← List.mem_singleton.1 hmem]
      exact drawing_put part _

/-- A text of fields that fit into one document decodes to a document with the drawings given. -/
theorem exists_run_of_writtenAs (hfit : Fitting fs) {text : String}
    (htext : (value fs).WrittenAs text) {layout directions : Option LayoutText}
    (hlayout : .layout layout ∈ fs) (hdirections : .directions directions ∈ fs) :
    ∃ d : LevelDocument, LevelDocument.decode.run text = .ok d ∧ d.layout = layout ∧
      d.directions = directions :=
  ⟨fs.foldl put {}, run_of_writtenAs hfit htext,
    drawing_foldl_put .tiles hfit hlayout {}, drawing_foldl_put .directions hfit hdirections {}⟩

end LevelDocument

/-! ## Loading -/

/-- A text that decodes to a document is loaded as the level that the document describes, beside
the warnings about the document. -/
theorem Level.parse_of_run {text : String} {d : LevelDocument}
    (h : LevelDocument.decode.run text = .ok d) (directory : Option Path) (symbols : Symbols) :
    Level.parse text directory symbols =
      ((d.level directory symbols).mapError .misshapen,
        (d.warnings symbols).map LevelWarning.record) := by
  rw [Level.parse, h]
  cases hlevel : d.level directory symbols <;> simp [Except.mapError, hlevel]

end Gridwalk
