import Gridwalk.Json.Decode
import Gridwalk.Proofs.Json.Grammar
import Gridwalk.Proofs.Outcome
import Mathlib

/-!
# Readings of faultless texts

Whoever reads a faultless text of a value gets the value back, as long as it is not nested too
deep (`Value.value_reading`), and only such texts can be read (`Reading.eq_reading_of_value`). A
decoder that is run on one of them decodes the reading of the value (`Decoder.run_of_writtenAs`,
`Decoder.run_of_decodeValue`). A record takes its fields from the entries of its object, one by one
and in any order (`decodeFields_of_takes`).
-/

namespace Gridwalk.Json

/-! ## Values -/

mutual

/-- How deep arrays and objects are nested in a value. -/
def Value.depth : Value → Nat
  | .null | .bool _ | .number _ | .string _ => 0
  | .array items => itemsDepth items + 1
  | .object fields => fieldsDepth fields + 1

def itemsDepth : List Value → Nat
  | [] => 0
  | v :: vs => max v.depth (itemsDepth vs)

def fieldsDepth : List (String × Value) → Nat
  | [] => 0
  | (_, v) :: fs => max v.depth (fieldsDepth fs)

end

mutual

/-- A value is read back from its reading by all who have levels of nesting enough. -/
theorem Value.value_reading {v : Value} {n : Nat} (h : v.depth ≤ n) :
    v.reading.value n = .ok v := by
  cases v with
  | null | bool | number | string => rfl
  | array items =>
    rw [Value.depth] at h
    obtain ⟨n, rfl⟩ := Nat.exists_eq_add_one_of_ne_zero (Nat.ne_zero_of_lt h)
    have hitems := values_readings (Nat.le_of_succ_le_succ h)
    simp [Value.reading, Reading.value, enter, hitems, bind, Except.bind, pure, Except.pure]
  | object fields =>
    rw [Value.depth] at h
    obtain ⟨n, rfl⟩ := Nat.exists_eq_add_one_of_ne_zero (Nat.ne_zero_of_lt h)
    have hfields := values_fieldReadings (Nat.le_of_succ_le_succ h)
    simp [Value.reading, Reading.value, enter, hfields, bind, Except.bind, pure, Except.pure]

theorem values_readings {vs : List Value} {n : Nat} (h : itemsDepth vs ≤ n) :
    (readings vs).values n = .ok vs := by
  cases vs with
  | nil => rfl
  | cons v vs =>
    rw [itemsDepth, max_le_iff] at h
    rw [readings, Items.values, Value.value_reading h.1, values_readings h.2]
    rfl

theorem values_fieldReadings {fs : List (String × Value)} {n : Nat}
    (h : fieldsDepth fs ≤ n) : (fieldReadings fs).values n = .ok fs := by
  cases fs with
  | nil => rfl
  | cons f fs =>
    obtain ⟨name, v⟩ := f
    rw [fieldsDepth, max_le_iff] at h
    rw [fieldReadings, Fields.values, Value.value_reading h.1, values_fieldReadings h.2]
    rfl

end

theorem enter_eq_ok_iff {n m : Nat} : enter n = .ok m ↔ m + 1 = n := by
  cases n <;> simp [enter, eq_comm]

theorem depth_le_fieldsDepth {key : String} {v : Value} {fields : List (String × Value)}
    (h : (key, v) ∈ fields) : v.depth ≤ fieldsDepth fields := by
  induction fields with
  | nil => cases h
  | cons f fs ih =>
    rw [fieldsDepth]
    rcases List.mem_cons.1 h with rfl | h
    · exact le_max_left _ _
    · exact (ih h).trans (le_max_right _ _)

mutual

/-- What is read as a value is the reading of this value, and the value is not nested too deep. -/
theorem Reading.eq_reading_of_value {r : Reading} {n : Nat} {v : Value} (h : r.value n = .ok v) :
    r = v.reading ∧ v.depth ≤ n := by
  cases r with
  | null | bool =>
    cases h
    exact ⟨rfl, Nat.zero_le n⟩
  | number x | string x =>
    obtain ⟨a, rfl, rfl⟩ := map_eq_ok_iff.1 h
    exact ⟨rfl, Nat.zero_le n⟩
  | array items =>
    obtain ⟨m, hm, hread⟩ := bind_eq_ok_iff.1 h
    obtain ⟨vs, hvs, hv⟩ := bind_eq_ok_iff.1 hread
    obtain ⟨rfl, hdepth⟩ := Items.eq_readings_of_values hvs
    cases hv
    exact ⟨rfl, (Nat.succ_le_succ hdepth).trans_eq (enter_eq_ok_iff.1 hm)⟩
  | object fields =>
    obtain ⟨m, hm, hread⟩ := bind_eq_ok_iff.1 h
    obtain ⟨fs, hfs, hv⟩ := bind_eq_ok_iff.1 hread
    obtain ⟨rfl, hdepth⟩ := Fields.eq_fieldReadings_of_values hfs
    cases hv
    exact ⟨rfl, (Nat.succ_le_succ hdepth).trans_eq (enter_eq_ok_iff.1 hm)⟩
  | broken | brokenBare => cases h

theorem Items.eq_readings_of_values {items : Items} {n : Nat} {vs : List Value}
    (h : items.values n = .ok vs) : items = readings vs ∧ itemsDepth vs ≤ n := by
  cases items with
  | closed =>
    cases h
    exact ⟨rfl, Nat.zero_le n⟩
  | broken => cases h
  | item head tail =>
    obtain ⟨v, hv, hread⟩ := bind_eq_ok_iff.1 h
    obtain ⟨vs, hvs, hcons⟩ := bind_eq_ok_iff.1 hread
    obtain ⟨rfl, hdepth⟩ := Reading.eq_reading_of_value hv
    obtain ⟨rfl, hdepths⟩ := Items.eq_readings_of_values hvs
    cases hcons
    exact ⟨rfl, max_le hdepth hdepths⟩

theorem Fields.eq_fieldReadings_of_values {fields : Fields} {n : Nat}
    {fs : List (String × Value)} (h : fields.values n = .ok fs) :
    fields = fieldReadings fs ∧ fieldsDepth fs ≤ n := by
  cases fields with
  | closed =>
    cases h
    exact ⟨rfl, Nat.zero_le n⟩
  | broken | brokenName => cases h
  | field name value tail =>
    obtain ⟨key, hkey, hread⟩ := bind_eq_ok_iff.1 h
    obtain ⟨v, hv, hread'⟩ := bind_eq_ok_iff.1 hread
    obtain ⟨fs, hfs, hcons⟩ := bind_eq_ok_iff.1 hread'
    obtain ⟨rfl, hdepth⟩ := Reading.eq_reading_of_value hv
    obtain ⟨rfl, hdepths⟩ := Fields.eq_fieldReadings_of_values hfs
    cases hkey
    cases hcons
    exact ⟨rfl, max_le hdepth hdepths⟩

end

/-! ## Skipping -/

mutual

/-- All can go past a value, however deep it is nested. -/
theorem Value.skip_reading (v : Value) : v.reading.skip = .ok () := by
  cases v with
  | null | bool | number | string => rfl
  | array items => exact skip_readings items
  | object fields => exact skip_fieldReadings fields

theorem skip_readings (vs : List Value) : (readings vs).skip = .ok () := by
  cases vs with
  | nil => rfl
  | cons v vs =>
    rw [readings, Items.skip, v.skip_reading, skip_readings vs]
    rfl

theorem skip_fieldReadings (fs : List (String × Value)) : (fieldReadings fs).skip = .ok () := by
  cases fs with
  | nil => rfl
  | cons f fs =>
    obtain ⟨name, v⟩ := f
    rw [fieldReadings, Fields.skip, v.skip_reading, skip_fieldReadings fs]
    rfl

end

/-! ## Texts -/

theorem unread_eq_ok_iff {α : Type} {x : Except Failure α} {a : α} :
    unread x = .ok a ↔ x = .ok a := by
  cases x <;> simp [unread]

theorem Decoder.run_of_writtenAs {α : Type} (d : Decoder α) {v : Value} {text : String}
    (h : v.WrittenAs text) : d.run text = d maxDepth v.reading := by
  rw [Decoder.run, h.ofText]
  cases d maxDepth v.reading <;> simp [unread, bind, Except.bind, pure, Except.pure]

/-- A text of a value that is not nested too deep can be read. -/
theorem decodeValue_of_writtenAs {v : Value} {text : String} (h : v.WrittenAs text)
    (hdepth : v.depth ≤ maxDepth) : decodeValue.run text = .ok v := by
  rw [Decoder.run_of_writtenAs _ h, decodeValue, Value.value_reading hdepth]
  rfl

/-- A text that can be read as a value is decoded by its reading. -/
theorem Decoder.run_of_decodeValue {α : Type} (d : Decoder α) {v : Value} {text : String}
    (h : decodeValue.run text = .ok v) :
    d.run text = d maxDepth v.reading ∧ v.depth ≤ maxDepth := by
  obtain ⟨v, hv, hread⟩ := bind_eq_ok_iff.1 h
  obtain ⟨u, htrailing, hreturn⟩ := bind_eq_ok_iff.1 hread
  cases hreturn
  obtain ⟨hreading, hdepth⟩ := Reading.eq_reading_of_value (unread_eq_ok_iff.1 hv)
  refine ⟨?_, hdepth⟩
  rw [Decoder.run, hreading, htrailing]
  cases d maxDepth v.reading <;> rfl

/-! ## Options -/

/-- A value, or null for none. -/
def nullable {α : Type} (value : α → Value) : Option α → Value
  | none => .null
  | some a => value a

theorem decodeOption_nullable {α : Type} {d : Decoder α} {value : α → Value} {n : Nat}
    (hvalue : ∀ a, d n (value a).reading = .ok a) (hnull : ∀ a, (value a).reading ≠ .null)
    (a : Option α) : decodeOption d n (nullable value a).reading = .ok a := by
  cases a with
  | none => rfl
  | some a =>
    rw [nullable]
    unfold decodeOption
    split
    · next h => exact absurd h (hnull a)
    · rw [hvalue a]
      rfl

/-! ## Sequences and maps -/

section Sequences

variable {α : Type} {d : Decoder α} {value : α → Value} {n : Nat}

theorem decodeItems_readings (h : ∀ a, d n (value a).reading = .ok a) (as : List α) :
    decodeItems d n (readings (as.map value)) = .ok as := by
  induction as with
  | nil => rfl
  | cons a as ih =>
    rw [List.map_cons, readings, decodeItems, h a, ih]
    rfl

theorem decodeList_array (h : ∀ a, d n (value a).reading = .ok a) (as : List α) :
    decodeList d (n + 1) (Value.array (as.map value)).reading = .ok as :=
  decodeItems_readings h as

theorem decodeEntries_fieldReadings (h : ∀ a, d n (value a).reading = .ok a)
    (es : List (String × α)) :
    decodeEntries d n (fieldReadings (es.map fun e => (e.1, value e.2))) = .ok es := by
  induction es with
  | nil => rfl
  | cons e es ih =>
    rw [List.map_cons, fieldReadings, decodeEntries, h e.2, ih]
    rfl

theorem decodeMap_object (h : ∀ a, d n (value a).reading = .ok a) (es : List (String × α)) :
    decodeMap d (n + 1) (Value.object (es.map fun e => (e.1, value e.2))).reading = .ok es :=
  decodeEntries_fieldReadings h es

end Sequences

/-! ## Enumerations -/

/-- An object with the name of a variant as its only field. -/
theorem decodeEnum_keyed {α : Type} {variants : List (Variant α)} {variant : Variant α}
    {name : String} {v : Value} {n : Nat} {a : α} (hfound : findVariant variants name = .ok variant)
    (hv : variant.keyed n v.reading = .ok a) :
    decodeEnum variants (n + 1) (Value.object [(name, v)]).reading = .ok a := by
  simp [decodeEnum, Value.reading, fieldReadings, enter, unread, hfound, hv, Fields.end, bind,
    Except.bind, pure, Except.pure]

/-! ## Records -/

section Records

variable {β : Type} {shape : RecordShape β} {n : Nat} {seen : List String}

/-- What a record takes from an entry of its object: what the decoder that goes with the name gives,
or what becomes of fields of other names. -/
inductive RecordShape.Takes (shape : RecordShape β) (n : Nat) : String × Value → Option β → Prop
  | known {key : String} {v : Value} {d : Decoder β} {b : β}
      (lookup : shape.known.lookup key = some d) (decoded : d n v.reading = .ok b) :
      Takes shape n (key, v) (some b)
  | other {key : String} {v : Value} {b : Option β} (unknown : key ∉ shape.known.map Prod.fst)
      (decoded : shape.other key n v.reading = .ok b) : Takes shape n (key, v) b

theorem lookup_eq_none_of_notMem {key : String} (h : key ∉ shape.known.map Prod.fst) :
    shape.known.lookup key = none := by
  rw [List.lookup_eq_none_iff]
  intro p hp
  have hne : key ≠ p.1 := by
    rintro rfl
    exact h (List.mem_map_of_mem hp)
  simpa using hne

theorem mem_of_lookup_eq_some {key : String} {d : Decoder β}
    (h : shape.known.lookup key = some d) : key ∈ shape.known.map Prod.fst := by
  by_contra hunknown
  rw [lookup_eq_none_of_notMem hunknown] at h
  cases h

/-- The entries of an object are decoded one by one, if none of a known name comes twice. The names
seen before are of other entries. -/
theorem decodeFields_of_takes {entries : List (String × Value)} {taken : List (Option β)}
    (h : List.Forall₂ (shape.Takes n) entries taken)
    (honce : entries.Pairwise fun e e' => e.1 ∈ shape.known.map Prod.fst → e.1 ≠ e'.1)
    (hseen : ∀ e ∈ entries, e.1 ∈ shape.known.map Prod.fst → e.1 ∉ seen) :
    decodeFields shape n seen (fieldReadings entries) = .ok taken.reduceOption := by
  induction h generalizing seen with
  | nil => rfl
  | @cons e b entries taken he _ ih =>
    obtain ⟨hhead, htail⟩ := List.pairwise_cons.1 honce
    obtain ⟨hnew, hnews⟩ := List.forall_mem_cons.1 hseen
    cases he with
    | @known key v d b hlookup hd =>
      have hkey := mem_of_lookup_eq_some hlookup
      have hlater : ∀ e' ∈ entries, e'.1 ∈ shape.known.map Prod.fst → e'.1 ∉ key :: seen := by
        intro e' he' hknown hmem
        rcases List.mem_cons.1 hmem with heq | hmem
        · exact hhead e' he' hkey heq.symm
        · exact hnews e' he' hknown hmem
      simp only [fieldReadings, decodeFields, unread, hlookup, List.contains_iff_mem, hnew hkey, hd,
        ih htail hlater, bind, Except.bind]
      rfl
    | @other key v b hunknown hother =>
      simp only [fieldReadings, decodeFields, unread, lookup_eq_none_of_notMem hunknown, hother,
        ih htail hnews, bind, Except.bind]
      cases b <;> rfl

end Records

end Gridwalk.Json
