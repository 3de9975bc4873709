import Gridwalk.Board.Drawing
import Mathlib

/-!
# The laws of grids

A grid is known by its size and by what `get` answers at each coordinate (`ext_get`).

- **Raster order.** `offset` numbers the cells from zero without gaps, and `coordAt` is its
  inverse.
- **Writing.** `set` succeeds on the cells and only there. Afterwards the cell holds the new
  value, and every other coordinate answers as before (`get_of_set`).
- **Listing.** `toList` holds each cell once with its value, by ascending offset.
- **Rows.** There are as many rows as the grid is high, all as long as it is wide, and one after
  another they hold all cells (`flatten_rows`).
- **Counting.** A write takes the kind of the old tile off the count and adds that of the new
  one (`count_of_set`).
-/

namespace Gridwalk.Grid

universe u v

variable {α : Type u} {β : Type v} {g g' : Grid α} {c c' : Coord} {a b : α}

/-- Two grids are equally wide and high. -/
structure SameSize (g : Grid α) (h : Grid β) : Prop where
  width : g.width = h.width
  height : g.height = h.height

namespace SameSize

theorem refl (g : Grid α) : SameSize g g := ⟨rfl, rfl⟩

theorem symm {h : Grid β} (hs : SameSize g h) : SameSize h g := ⟨hs.width.symm, hs.height.symm⟩

theorem trans {γ : Type*} {h : Grid β} {k : Grid γ} (hs : SameSize g h) (hs' : SameSize h k) :
    SameSize g k :=
  ⟨hs.width.trans hs'.width, hs.height.trans hs'.height⟩

theorem contains_iff {h : Grid β} (hs : SameSize g h) : g.Contains c ↔ h.Contains c := by
  simp only [Contains, hs.width, hs.height]

theorem offset_eq {h : Grid β} (hs : SameSize g h) : g.offset c = h.offset c := by
  simp only [offset, hs.width]

end SameSize

/-! ## Construction -/

/-- A grid is made of its size and its cells and of nothing else. -/
theorem ofCells_eq_ok_iff {width height : Int} {cells : Array α} :
    ofCells width height cells = .ok g ↔
      (g.width : Int) = width ∧ (g.height : Int) = height ∧ g.cells = cells := by
  constructor
  · intro h
    unfold ofCells at h
    split at h
    · next hpos =>
      split at h
      · cases h
        exact ⟨Int.toNat_of_nonneg hpos.1.le, Int.toNat_of_nonneg hpos.2.le, rfl⟩
      · cases h
    · cases h
  · rintro ⟨rfl, rfl, rfl⟩
    have hpos : (0 : Int) < g.width ∧ (0 : Int) < g.height :=
      ⟨Int.natCast_pos.2 g.width_pos, Int.natCast_pos.2 g.height_pos⟩
    have hsize : g.cells.size = (g.width : Int).toNat * (g.height : Int).toNat := g.size_cells
    rw [ofCells, dif_pos hpos, dif_pos hsize]
    rfl

/-! ## Raster order -/

theorem offset_coordAt (g : Grid α) (i : Nat) : g.offset (g.coordAt i) = i := by
  simp only [offset, coordAt, Int.toNat_natCast]
  rw [Nat.mul_comm]
  exact Nat.div_add_mod i g.width

theorem contains_coordAt {i : Nat} (h : i < g.cells.size) : g.Contains (g.coordAt i) := by
  have hmod : i % g.width < g.width := Nat.mod_lt _ g.width_pos
  have hdiv : i / g.width < g.height := by
    rw [Nat.div_lt_iff_lt_mul g.width_pos, Nat.mul_comm, ← g.size_cells]
    exact h
  exact ⟨Int.natCast_nonneg _, Int.natCast_nonneg _, Int.ofNat_lt.2 hmod, Int.ofNat_lt.2 hdiv⟩

theorem coordAt_offset (h : g.Contains c) : g.coordAt (g.offset c) = c := by
  obtain ⟨hx, hy, hxw, -⟩ := h
  have hlt : c.x.toNat < g.width := by omega
  have hmod : g.offset c % g.width = c.x.toNat := by
    rw [offset, Nat.mul_comm, Nat.mul_add_mod, Nat.mod_eq_of_lt hlt]
  have hdiv : g.offset c / g.width = c.y.toNat := by
    rw [offset, Nat.mul_comm, Nat.mul_add_div g.width_pos, Nat.div_eq_of_lt hlt, Nat.add_zero]
  simp only [coordAt, hmod, hdiv, Int.toNat_of_nonneg hx, Int.toNat_of_nonneg hy]

theorem offset_injective (hc : g.Contains c) (hc' : g.Contains c')
    (h : g.offset c = g.offset c') : c = c' := by
  rw [← coordAt_offset hc, ← coordAt_offset hc', h]

/-! ## Reading -/

theorem get_eq_ok_iff : g.get c = .ok a ↔ g.Contains c ∧ g.cells[g.offset c]? = some a := by
  unfold get
  split
  · next h => simp [h, offset_lt_size h]
  · next h => simp [h]

theorem get_of_not_contains (h : ¬ g.Contains c) : g.get c = .error (g.offGrid c) := by
  simp [get, h]

theorem contains_of_get (h : g.get c = .ok a) : g.Contains c := (get_eq_ok_iff.1 h).1

theorem exists_get (h : g.Contains c) : ∃ a, g.get c = .ok a := by
  have hlt := offset_lt_size h
  exact ⟨g.cells[g.offset c], by simp [get, h]⟩

/-- A grid is known by its size and its cells. -/
theorem ext_get (hs : SameSize g g') (h : ∀ c, g.Contains c → g.get c = g'.get c) : g = g' := by
  have hcells : g.cells = g'.cells := by
    apply Array.ext_getElem?
    intro i
    by_cases hi : i < g.cells.size
    · obtain ⟨a, ha⟩ := exists_get (contains_coordAt hi)
      have ha' := (h _ (contains_coordAt hi)).symm.trans ha
      have hg := (get_eq_ok_iff.1 ha).2
      have hg' := (get_eq_ok_iff.1 ha').2
      rw [offset_coordAt] at hg
      rw [← hs.offset_eq, offset_coordAt] at hg'
      rw [hg, hg']
    · have hi' : ¬ i < g'.cells.size := by
        rw [g'.size_cells, ← hs.width, ← hs.height, ← g.size_cells]
        exact hi
      rw [Array.getElem?_eq_none (by omega), Array.getElem?_eq_none (by omega)]
  obtain ⟨hw, hh⟩ := hs
  cases g
  cases g'
  simp_all

/-! ## Writing -/

theorem exists_set (h : g.Contains c) (a : α) : ∃ g', g.set c a = .ok g' := by
  simp [set, h]

theorem contains_of_set (h : g.set c a = .ok g') : g.Contains c := by
  unfold set at h
  split at h
  · assumption
  · cases h

theorem sameSize_of_set (h : g.set c a = .ok g') : SameSize g' g := by
  unfold set at h
  split at h
  · cases h
    exact ⟨rfl, rfl⟩
  · cases h

theorem cells_of_set (h : g.set c a = .ok g') :
    g'.cells = g.cells.setIfInBounds (g.offset c) a := by
  unfold set at h
  split at h
  · next hc =>
    cases h
    simp [Array.setIfInBounds, offset_lt_size hc]
  · cases h

/-- After a write the cell holds the new value, and nothing else has changed. -/
theorem get_of_set (h : g.set c a = .ok g') (c' : Coord) :
    g'.get c' = if c' = c then .ok a else g.get c' := by
  have hs := sameSize_of_set h
  have hc := contains_of_set h
  by_cases hc' : g.Contains c'
  · have hcells : g'.cells[g'.offset c']? =
        if g.offset c = g.offset c' then some a else g.cells[g.offset c']? := by
      rw [hs.offset_eq, cells_of_set h, Array.getElem?_setIfInBounds]
      simp [offset_lt_size hc]
    by_cases heq : c' = c
    · subst heq
      rw [if_pos rfl] at hcells ⊢
      exact get_eq_ok_iff.2 ⟨hs.contains_iff.2 hc', hcells⟩
    · have hne : g.offset c ≠ g.offset c' := fun ho => heq (offset_injective hc' hc ho.symm)
      rw [if_neg hne] at hcells
      rw [if_neg heq]
      obtain ⟨b, hb⟩ := exists_get hc'
      rw [hb]
      exact get_eq_ok_iff.2
        ⟨hs.contains_iff.2 hc', hcells.trans (get_eq_ok_iff.1 hb).2⟩
  · have hne : c' ≠ c := fun heq => hc' (heq ▸ hc)
    rw [if_neg hne, get_of_not_contains hc',
      get_of_not_contains fun h' => hc' (hs.contains_iff.1 h')]
    simp only [offGrid, hs.width, hs.height]

theorem modify_eq_set (h : g.get c = .ok a) (f : α → α) : g.modify c f = g.set c (f a) := by
  simp [modify, h, bind, Except.bind]

/-! ## Constant grids -/

theorem sameSize_const {β : Type u} (g : Grid α) (b : β) : SameSize (g.const b) g := ⟨rfl, rfl⟩

theorem get_const {β : Type u} (h : g.Contains c) (b : β) : (g.const b).get c = .ok b := by
  refine get_eq_ok_iff.2 ⟨(sameSize_const g b).contains_iff.2 h, ?_⟩
  have hlt := offset_lt_size h
  rw [g.size_cells] at hlt
  rw [(sameSize_const g b).offset_eq]
  simp [const, hlt]

/-! ## Listing -/

theorem map_fst_toList (g : Grid α) :
    g.toList.map Prod.fst = (List.range g.cells.size).map g.coordAt := by
  unfold toList
  rw [List.map_map, List.zipIdx_eq_zip_range', List.range_eq_range']
  have hfun : (Prod.fst ∘ fun x : α × Nat => (g.coordAt x.2, x.1)) = g.coordAt ∘ Prod.snd := rfl
  rw [hfun, ← List.map_map, List.map_snd_zip (by simp)]
  simp

theorem mem_toList : (c, a) ∈ g.toList ↔ g.get c = .ok a := by
  simp only [toList, List.mem_map, Prod.exists, Prod.mk.injEq]
  constructor
  · rintro ⟨b, i, hi, rfl, rfl⟩
    have hget : g.cells[i]? = some b := by simpa using List.mem_zipIdx_iff_getElem?.1 hi
    have hlt : i < g.cells.size := by
      by_contra hge
      rw [Array.getElem?_eq_none (by omega)] at hget
      cases hget
    exact get_eq_ok_iff.2 ⟨contains_coordAt hlt, by rw [offset_coordAt, hget]⟩
  · intro h
    obtain ⟨hc, hcell⟩ := get_eq_ok_iff.1 h
    refine ⟨a, g.offset c, List.mem_zipIdx_iff_getElem?.2 ?_, coordAt_offset hc, rfl⟩
    simpa using hcell

/-- The cells are listed in raster order. -/
theorem pairwise_toList (g : Grid α) :
    (g.toList.map Prod.fst).Pairwise fun c c' => g.offset c < g.offset c' := by
  rw [map_fst_toList, List.pairwise_map]
  simp only [offset_coordAt]
  exact List.pairwise_lt_range

/-! ## Rows -/

theorem length_rows (g : Grid α) : g.rows.length = g.height := by simp [rows]

theorem length_of_mem_rows {row : List α} (h : row ∈ g.rows) : row.length = g.width := by
  obtain ⟨y, hy, rfl⟩ := List.mem_map.1 h
  have hle : (y + 1) * g.width ≤ g.height * g.width :=
    Nat.mul_le_mul_right _ (List.mem_range.1 hy)
  rw [Nat.add_mul, Nat.one_mul, Nat.mul_comm g.height, ← g.size_cells] at hle
  rw [List.length_take, List.length_drop, Array.length_toList]
  omega

/-- The rows one after another are the cells. -/
theorem flatten_rows (g : Grid α) : g.rows.flatten = g.cells.toList := by
  have htake : ∀ n, ((List.range n).map fun y =>
      (g.cells.toList.drop (y * g.width)).take g.width).flatten =
        g.cells.toList.take (n * g.width) := by
    intro n
    induction n with
    | zero => simp
    | succ n ih =>
      rw [List.range_succ, List.map_append, List.flatten_append, ih, Nat.add_mul, Nat.one_mul,
        List.take_add]
      simp
  rw [rows, htake, List.take_of_length_le]
  rw [Array.length_toList, g.size_cells, Nat.mul_comm]

theorem mem_cells_of_mem_rows {row : List α} (hrow : row ∈ g.rows) (ha : a ∈ row) :
    a ∈ g.cells.toList := by
  rw [← g.flatten_rows]
  exact List.mem_flatten_of_mem hrow ha

/-! ## Counting -/

theorem count_eq_countP (g : Grid Tile) (k : TileKind) :
    g.count k = g.cells.countP fun t => t.kind = k := by
  unfold count toList
  rw [← List.countP_eq_length_filter, List.countP_map, ← Array.countP_toList]
  conv_rhs => rw [← List.zipIdx_map_fst 0 g.cells.toList, List.countP_map]
  rfl

/-- A write replaces one tile in the count of a kind. -/
theorem count_of_set {g g' : Grid Tile} {old new : Tile} (h : g.set c new = .ok g')
    (hold : g.get c = .ok old) (k : TileKind) :
    g'.count k + (if old.kind = k then 1 else 0) =
      g.count k + (if new.kind = k then 1 else 0) := by
  have hcell := (get_eq_ok_iff.1 hold).2
  obtain ⟨hlt, hget⟩ := Array.getElem?_eq_some_iff.1 hcell
  have hpos : old.kind = k → 0 < g.cells.countP fun t => t.kind = k := by
    intro hk
    exact Array.countP_pos_iff.2 ⟨old, hget ▸ Array.getElem_mem hlt, by simpa using hk⟩
  rw [count_eq_countP, count_eq_countP, cells_of_set h, Array.setIfInBounds, dif_pos hlt,
    Array.countP_set, hget]
  split_ifs <;> simp_all

end Gridwalk.Grid
