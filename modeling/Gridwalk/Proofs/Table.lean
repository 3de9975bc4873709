import Gridwalk.Table
import Mathlib

/-!
# The laws of sorted tables

The keys of a table are all different, so looking a key up finds the one entry that it has
(`find?_eq_some_iff`). Setting a key adds it to the keys and does nothing else to them
(`mem_keys_insert`). Assignments that come in the order of their keys are the entries of their
table as they are (`entries_ofList`).
-/

namespace Gridwalk.Table

universe u v

variable {κ : Type u} {ν : Type v} [LT κ]

theorem ext_entries {s t : Table κ ν} (h : s.entries = t.entries) : s = t := by
  cases s
  cases t
  cases h
  rfl

section Keys

variable [Std.Irrefl (α := κ) (· < ·)]

theorem nodup_keys (t : Table κ ν) : (t.entries.map Prod.fst).Nodup := by
  rw [List.Nodup, List.pairwise_map]
  refine t.sorted.imp fun {a b} hlt heq => ?_
  rw [heq] at hlt
  exact Std.Irrefl.irrefl _ hlt

theorem find?_eq_some_iff [DecidableEq κ] {t : Table κ ν} {k : κ} {v : ν} :
    t.find? k = some v ↔ (k, v) ∈ t.entries := by
  constructor
  · intro h
    obtain ⟨e, he, rfl⟩ := Option.map_eq_some_iff.1 h
    have hkey : e.1 = k := by simpa using List.find?_some he
    rw [← hkey]
    exact List.mem_of_find?_eq_some he
  · intro h
    obtain ⟨e, he⟩ : ∃ e, t.entries.find? (fun e => e.1 = k) = some e := by
      rw [← Option.isSome_iff_exists, List.find?_isSome]
      exact ⟨(k, v), h, by simp⟩
    have hkey : e.1 = k := by simpa using List.find?_some he
    have hentry : e = (k, v) :=
      List.inj_on_of_nodup_map t.nodup_keys (List.mem_of_find?_eq_some he) h hkey
    rw [find?, he, hentry]
    rfl

end Keys

/-! ## Setting keys -/

section Insert

variable [DecidableLT κ]

theorem mem_keys_insertEntry [Std.Trichotomous (α := κ) (· < ·)] {k k' : κ} {v : ν}
    {es : List (κ × ν)} :
    k' ∈ (insertEntry k v es).map Prod.fst ↔ k' = k ∨ k' ∈ es.map Prod.fst := by
  induction es with
  | nil => simp [insertEntry]
  | cons e es ih =>
    obtain ⟨k₀, v₀⟩ := e
    unfold insertEntry
    split_ifs with hlt hgt
    · simp
    · rw [List.map_cons, List.mem_cons, ih, List.map_cons, List.mem_cons, or_left_comm]
    · have hsame : k = k₀ := Std.Trichotomous.trichotomous k k₀ hlt hgt
      simp [hsame]

variable [Trans (α := κ) (β := κ) (γ := κ) (· < ·) (· < ·) (· < ·)]

theorem mem_keys_insert [Std.Trichotomous (α := κ) (· < ·)] {t : Table κ ν} {k k' : κ} {v : ν} :
    k' ∈ (t.insert k v).keys ↔ k' = k ∨ k' ∈ t.keys :=
  mem_keys_insertEntry

variable [Std.Irrefl (α := κ) (· < ·)]

/-- A key beyond all others goes to the end. -/
theorem insertEntry_eq_append {k : κ} {v : ν} {es : List (κ × ν)} (h : ∀ e ∈ es, e.1 < k) :
    insertEntry k v es = es ++ [(k, v)] := by
  induction es with
  | nil => rfl
  | cons e es ih =>
    obtain ⟨he, hes⟩ := List.forall_mem_cons.1 h
    have hnot : ¬ k < e.1 := fun hlt => Std.Irrefl.irrefl k (Trans.trans hlt he)
    rw [insertEntry, if_neg hnot, if_pos he, ih hes, List.cons_append]

theorem entries_ofList {es : List (κ × ν)} (h : es.Pairwise fun a b => a.1 < b.1) :
    (ofList es).entries = es := by
  induction es using List.reverseRecOn with
  | nil => rfl
  | append_singleton es e ih =>
    obtain ⟨hes, -, hlast⟩ := List.pairwise_append.1 h
    have hinsert : (ofList (es ++ [e])).entries = insertEntry e.1 e.2 (ofList es).entries := by
      rw [ofList, List.foldl_append]
      rfl
    rw [hinsert, ih hes]
    exact insertEntry_eq_append fun e' he' => hlast e' he' e (List.mem_singleton_self e)

theorem ofList_entries (t : Table κ ν) : ofList t.entries = t :=
  ext_entries (entries_ofList t.sorted)

end Insert

end Gridwalk.Table
