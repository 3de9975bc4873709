/-!
# Sorted tables

A table maps finitely many keys to values. Its entries are kept in strictly ascending order of
their keys, so a table has one form only and two tables with the same entries are equal.
-/

namespace Gridwalk

universe u v

/-- Entries in strictly ascending order of the keys. -/
structure Table (κ : Type u) (ν : Type v) [LT κ] where
  entries : List (κ × ν)
  sorted : entries.Pairwise (fun a b => a.1 < b.1) := by simp

namespace Table

variable {κ : Type u} {ν : Type v} [LT κ]

instance [DecidableEq κ] [DecidableEq ν] : DecidableEq (Table κ ν) := fun s t =>
  decidable_of_iff (s.entries = t.entries) (by cases s; cases t; simp)

def empty : Table κ ν := { entries := [] }

instance : Inhabited (Table κ ν) := ⟨empty⟩

def keys (t : Table κ ν) : List κ := t.entries.map (·.1)

/-- The value of a key. -/
def find? [DecidableEq κ] (t : Table κ ν) (k : κ) : Option ν :=
  (t.entries.find? fun e => e.1 = k).map (·.2)

section Insert

variable [DecidableLT κ]

/-- The entries with `k` set to `v`: a new key goes to its place, a known one is replaced. -/
def insertEntry (k : κ) (v : ν) : List (κ × ν) → List (κ × ν)
  | [] => [(k, v)]
  | (k', v') :: es =>
    if k < k' then (k, v) :: (k', v') :: es
    else if k' < k then (k', v') :: insertEntry k v es
    else (k', v) :: es

theorem key_mem_insertEntry {k : κ} {v : ν} {e : κ × ν} :
    ∀ {es : List (κ × ν)}, e ∈ insertEntry k v es → e.1 = k ∨ ∃ e' ∈ es, e.1 = e'.1
  | [], h => by simp_all [insertEntry]
  | (k', v') :: es, h => by
    unfold insertEntry at h
    split at h
    · rcases List.mem_cons.1 h with rfl | h
      · exact .inl rfl
      · exact .inr ⟨e, h, rfl⟩
    · split at h
      · rcases List.mem_cons.1 h with rfl | h
        · exact .inr ⟨(k', v'), by simp⟩
        · rcases key_mem_insertEntry h with h | ⟨e', he', h⟩
          · exact .inl h
          · exact .inr ⟨e', List.mem_cons_of_mem _ he', h⟩
      · rcases List.mem_cons.1 h with rfl | h
        · exact .inr ⟨(k', v'), by simp⟩
        · exact .inr ⟨e, List.mem_cons_of_mem _ h, rfl⟩

variable [Trans (α := κ) (β := κ) (γ := κ) (· < ·) (· < ·) (· < ·)]

theorem pairwise_insertEntry (k : κ) (v : ν) :
    ∀ {es : List (κ × ν)}, es.Pairwise (fun a b => a.1 < b.1) →
      (insertEntry k v es).Pairwise (fun a b => a.1 < b.1)
  | [], _ => by simp [insertEntry]
  | (k', v') :: es, h => by
    obtain ⟨hhead, htail⟩ := List.pairwise_cons.1 h
    unfold insertEntry
    split
    · next hlt =>
      refine List.pairwise_cons.2 ⟨fun e he => ?_, h⟩
      rcases List.mem_cons.1 he with rfl | he
      · exact hlt
      · exact Trans.trans hlt (hhead e he)
    · split
      · next hlt =>
        refine List.pairwise_cons.2 ⟨fun e he => ?_, pairwise_insertEntry k v htail⟩
        rcases key_mem_insertEntry he with h | ⟨e', he', h⟩
        · exact h ▸ hlt
        · exact h ▸ hhead e' he'
      · exact List.pairwise_cons.2 ⟨hhead, htail⟩

/-- Sets the value of a key. -/
def insert (t : Table κ ν) (k : κ) (v : ν) : Table κ ν :=
  { entries := insertEntry k v t.entries, sorted := pairwise_insertEntry k v t.sorted }

/-- The table of a list of assignments, of which a later one wins. -/
def ofList (es : List (κ × ν)) : Table κ ν :=
  es.foldl (fun t e => t.insert e.1 e.2) empty

end Insert

/-- Texts can be keys. -/
instance transText : Trans (α := String) (β := String) (γ := String) (· < ·) (· < ·) (· < ·) :=
  ⟨String.lt_trans⟩

end Table

end Gridwalk
