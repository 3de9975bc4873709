import Gridwalk.Proofs.Outcome
import Gridwalk.Proofs.Symbols
import Gridwalk.Proofs.Text.ByteOrder
import Mathlib

/-!
# Symbols as keys

In a document the characters of a table of symbols are keys, which are texts.

**Theorem (`Symbols.keys_and_lookup`).** Keys make a table of symbols if and only if each of them
has exactly one character; otherwise the first key that has not, in the order of bytes, is named.
Tables of symbols and the keys that make one correspond to each other: either is what the other is
converted to (`Symbols.ofKeys_eq_ok_iff`). In a table of symbols a kind is drawn by its least mark,
or by its letter where it has none.

A key of one character comes before another one if its character does, so the conversion keeps the
order of the entries, and the first entry that cannot be converted has the least of all such keys.
-/

namespace Gridwalk

namespace Symbols

variable {s : Symbols} {m : Table String TileKind} {key : String} {k : TileKind} {c : Char}

/-! ## Entries -/

/-- The entry of a document for an entry of a table of symbols. -/
def keyed (e : Char × TileKind) : String × TileKind := (String.singleton e.1, e.2)

theorem symbolOfKey_eq_ok_iff : symbolOfKey key = .ok c ↔ key = String.singleton c := by
  rw [← String.toList_inj, String.toList_singleton, symbolOfKey]
  split
  · next c' hkey => simp [hkey]
  · next hkey =>
    simp only [reduceCtorEq, false_iff]
    exact hkey c

theorem singleton_lt_singleton {c d : Char} :
    String.singleton c < String.singleton d ↔ c < d := by
  rw [String.lt_iff_toList_lt, String.toList_singleton, String.toList_singleton,
    List.cons_lt_cons_iff]
  simp

/-- The conversion of an entry of a document. -/
def unkeyed (e : String × TileKind) : Except String (Char × TileKind) := do
  return (← symbolOfKey e.1, e.2)

theorem unkeyed_eq_ok_iff {e : String × TileKind} {e' : Char × TileKind} :
    unkeyed e = .ok e' ↔ e = keyed e' := by
  rw [unkeyed, bind_eq_ok_iff]
  simp only [symbolOfKey_eq_ok_iff]
  constructor
  · rintro ⟨c, hkey, hpair⟩
    cases hpair
    exact Prod.ext hkey rfl
  · rintro rfl
    exact ⟨e'.1, rfl, rfl⟩

theorem exists_unkeyed_iff {e : String × TileKind} :
    (∃ e', unkeyed e = .ok e') ↔ e.1.length = 1 := by
  simp only [unkeyed_eq_ok_iff, keyed, Prod.ext_iff, Prod.exists, exists_and_left, exists_eq',
    and_true, ← String.length_toList, List.length_eq_one_iff, ← String.toList_inj,
    String.toList_singleton]

/-- An entry that cannot be converted is told by its key. -/
theorem fst_eq_of_unkeyed {e : String × TileKind} (h : unkeyed e = .error key) : e.1 = key := by
  unfold unkeyed symbolOfKey at h
  split at h
  · cases h
  · cases h
    rfl

/-! ## Tables -/

/-- The entries in the order of their characters are in the order of their keys. -/
theorem pairwise_keyed {es : List (Char × TileKind)} :
    (es.map keyed).Pairwise (fun a b => a.1 < b.1) ↔ es.Pairwise (fun a b => a.1 < b.1) := by
  simp only [List.pairwise_map, keyed, singleton_lt_singleton]

theorem entries_toKeys (s : Symbols) : s.toKeys.entries = s.table.entries.map keyed :=
  Table.entries_ofList (pairwise_keyed.2 s.table.sorted)

theorem ofKeys_eq_map (m : Table String TileKind) :
    ofKeys m = (m.entries.mapM unkeyed).map fun es => ⟨.ofList es⟩ := by
  have hbind : ofKeys m = m.entries.mapM unkeyed >>= fun es => pure (Symbols.mk (.ofList es)) := rfl
  rw [hbind]
  cases m.entries.mapM unkeyed <;> rfl

theorem mapM_unkeyed_eq_ok_iff {es : List (Char × TileKind)} :
    m.entries.mapM unkeyed = .ok es ↔ m.entries = es.map keyed := by
  rw [mapM_eq_ok_iff]
  simp only [unkeyed_eq_ok_iff]
  rw [← List.forall₂_map_right_iff, List.forall₂_eq_eq_eq]

/-- Keys make a table of symbols if they are what the table is converted to. -/
theorem ofKeys_eq_ok_iff : ofKeys m = .ok s ↔ s.toKeys = m := by
  rw [ofKeys_eq_map, map_eq_ok_iff]
  constructor
  · rintro ⟨es, hes, rfl⟩
    have hkeyed := mapM_unkeyed_eq_ok_iff.1 hes
    have hsorted := pairwise_keyed.1 (hkeyed ▸ m.sorted)
    apply Table.ext_entries
    rw [entries_toKeys, Table.entries_ofList hsorted, hkeyed]
  · rintro rfl
    refine ⟨_, mapM_unkeyed_eq_ok_iff.2 (entries_toKeys s), ?_⟩
    rw [Table.ofList_entries]

/-- The key is the first one, in the order of bytes, that has not exactly one character. -/
structure LeastUnfit (m : Table String TileKind) (key : String) : Prop where
  mem : key ∈ m.keys
  unfit : key.length ≠ 1
  least : ∀ key' ∈ m.keys, key'.length ≠ 1 → Text.bytes key ≤ Text.bytes key'

/-- The first entry that cannot be converted has the least of all such keys. -/
theorem leastUnfit_of_ofKeys (h : ofKeys m = .error key) : LeastUnfit m key := by
  rw [ofKeys_eq_map, map_eq_error_iff] at h
  obtain ⟨before, e, after, hsplit, hbefore, he⟩ := exists_split_of_mapM h
  obtain rfl := fst_eq_of_unkeyed he
  have hunfit : e.1.length ≠ 1 := by
    rw [ne_eq, ← exists_unkeyed_iff, he]
    simp
  have hsorted := hsplit ▸ m.sorted
  have hafter := (List.pairwise_cons.1 (List.pairwise_append.1 hsorted).2.1).1
  refine ⟨List.mem_map_of_mem (by simp [hsplit]), hunfit, fun key' hkey' hunfit' => ?_⟩
  obtain ⟨e', he', rfl⟩ := List.mem_map.1 hkey'
  rw [hsplit, List.mem_append, List.mem_cons] at he'
  rcases he' with hmem | rfl | hmem
  · exact absurd (exists_unkeyed_iff.1 (hbefore e' hmem)) hunfit'
  · exact List.le_refl _
  · exact List.le_of_lt (Text.bytes_lt_bytes_iff.2 (hafter e' hmem))

theorem exists_ofKeys_iff : (∃ s, ofKeys m = .ok s) ↔ ∀ key ∈ m.keys, key.length = 1 := by
  constructor
  · rintro ⟨s, hs⟩ key hkey
    obtain rfl := ofKeys_eq_ok_iff.1 hs
    obtain ⟨e, he, rfl⟩ := List.mem_map.1 hkey
    rw [entries_toKeys] at he
    obtain ⟨e', -, rfl⟩ := List.mem_map.1 he
    exact exists_unkeyed_iff.1 ⟨e', unkeyed_eq_ok_iff.2 rfl⟩
  · intro hfit
    cases h : ofKeys m with
    | ok s => exact ⟨s, rfl⟩
    | error key =>
      have hleast := leastUnfit_of_ofKeys h
      exact absurd (hfit key hleast.mem) hleast.unfit

theorem ofKeys_eq_error_iff : ofKeys m = .error key ↔ LeastUnfit m key := by
  refine ⟨leastUnfit_of_ofKeys, fun hkey => ?_⟩
  cases h : ofKeys m with
  | ok s => exact absurd (exists_ofKeys_iff.1 ⟨s, h⟩ key hkey.mem) hkey.unfit
  | error key' =>
    have hkey' := leastUnfit_of_ofKeys h
    have hle : ¬ key' < key := fun hlt =>
      hkey.least key' hkey'.mem hkey'.unfit (Text.bytes_lt_bytes_iff.2 hlt)
    have hge : ¬ key < key' := fun hlt =>
      hkey'.least key hkey.mem hkey.unfit (Text.bytes_lt_bytes_iff.2 hlt)
    rw [le_antisymm (not_lt.1 hge) (not_lt.1 hle)]

/-- **Keys and lookup.** Keys of one character each, and only such, make a table of symbols, and
conversion goes back and forth between the two. The mark that draws a kind is its least one, or its
letter if it has none, so it can be read back if and only if there is one, and two kinds are drawn
alike if and only if the letter of one without marks is the least mark of the other. -/
theorem keys_and_lookup :
    (∀ m : Table String TileKind,
      ((∃ s, ofKeys m = .ok s) ↔ ∀ key ∈ m.keys, key.length = 1) ∧
      (∀ s, ofKeys m = .ok s → s.toKeys = m) ∧
      ∀ key, ofKeys m = .error key ↔ LeastUnfit m key) ∧
    ∀ s : Symbols, ofKeys s.toKeys = .ok s ∧
      (∀ k, ((s.marks k).Nonempty → IsLeast (s.marks k) (s.symbolOf k)) ∧
        (¬ (s.marks k).Nonempty → s.symbolOf k = k.letter) ∧
        (s.kindOf? (s.symbolOf k) = some k ↔ (s.marks k).Nonempty)) ∧
      ∀ k k', k ≠ k' → (s.symbolOf k = s.symbolOf k' ↔
        ¬ (s.marks k').Nonempty ∧ IsLeast (s.marks k) k'.letter ∨
          ¬ (s.marks k).Nonempty ∧ IsLeast (s.marks k') k.letter) :=
  ⟨fun _ => ⟨exists_ofKeys_iff, fun _ => ofKeys_eq_ok_iff.1, fun _ => ofKeys_eq_error_iff⟩,
    fun _ => ⟨ofKeys_eq_ok_iff.2 rfl,
      fun _ => ⟨isLeast_symbolOf, symbolOf_eq_letter, kindOf?_symbolOf_iff⟩,
      fun _ _ => symbolOf_eq_symbolOf_iff⟩⟩

end Symbols

end Gridwalk
