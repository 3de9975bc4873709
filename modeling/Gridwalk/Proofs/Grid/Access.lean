import Gridwalk.Proofs.Grid
import Mathlib

/-!
# Ways to the cells of a grid

A cell is reached by its coordinate, by its number in the list of all cells, and by its row.

- **Places.** Each number below the number of cells is the place of exactly one coordinate
  (`lt_size_iff_existsUnique_index`).
- **Listing.** What stands at a number of the list is the cell with that place and its value
  (`getElem?_toList`), so that each cell is met once (`count_toList`), row by row and from left to
  right (`pairwise_toList_before`).
- **Rows.** The rows are what cutting the cells into pieces as long as the grid is wide gives
  (`rows_eq_toChunks`), and a row holds at each place what `get` answers there (`entry_rows`).
-/

namespace Gridwalk

universe u

/-! ## Cutting a list into pieces -/

section Pieces

variable {α : Type u} {n : Nat}

theorem toChunks_go_eq_append (xs : List α) (piece : Array α) (pieces : Array (List α)) :
    List.toChunks.go n xs piece pieces = pieces.toList ++ List.toChunks.go n xs piece #[] := by
  induction xs generalizing piece pieces with
  | nil => simp [List.toChunks.go]
  | cons x xs ih =>
    simp only [List.toChunks.go]
    split
    · rw [ih _ (pieces.push piece.toList), ih _ (#[].push piece.toList)]
      simp
    · exact ih (piece.push x) pieces

theorem toChunks_cons (hn : 0 < n) (x : α) (xs : List α) :
    (x :: xs).toChunks n = List.toChunks.go n xs #[x] #[] := by
  cases n with
  | zero => cases hn
  | succ n => rfl

/-- A piece that is begun takes from the list what it lacks, and the rest is cut anew. -/
theorem toChunks_go_eq_cons (hn : 0 < n) (xs : List α) {piece : Array α} (hp : piece.size ≤ n) :
    List.toChunks.go n xs piece #[] =
      (piece.toList ++ xs).take n :: ((piece.toList ++ xs).drop n).toChunks n := by
  induction xs generalizing piece with
  | nil =>
    have hlen : piece.toList.length ≤ n := hp
    simp [List.toChunks.go, List.take_of_length_le hlen, List.drop_eq_nil_of_le hlen,
      List.toChunks]
  | cons x xs ih =>
    simp only [List.toChunks.go]
    split
    · next hfull =>
      -- A full piece is set aside; what follows is how cutting `x :: xs` begins.
      have hlen : piece.toList.length = n := by simpa using hfull
      rw [List.take_left' hlen, List.drop_left' hlen, toChunks_cons hn, toChunks_go_eq_append]
      rfl
    · next hopen =>
      have hsize : (piece.push x).size ≤ n := by
        have hne : piece.size ≠ n := by simpa using hopen
        rw [Array.size_push]
        omega
      simpa using ih hsize

theorem toChunks_of_ne_nil (hn : 0 < n) {xs : List α} (hxs : xs ≠ []) :
    xs.toChunks n = xs.take n :: (xs.drop n).toChunks n := by
  obtain ⟨x, xs, rfl⟩ := List.exists_cons_of_ne_nil hxs
  have hsize : #[x].size ≤ n := hn
  rw [toChunks_cons hn, toChunks_go_eq_cons hn xs hsize]
  rfl

/-- A list that is `k` times as long as the pieces is cut into `k` of them. -/
theorem toChunks_eq_map_range (hn : 0 < n) {k : Nat} {xs : List α} (hlen : xs.length = k * n) :
    xs.toChunks n = (List.range k).map fun i => (xs.drop (i * n)).take n := by
  induction k generalizing xs with
  | zero =>
    rw [Nat.zero_mul, List.length_eq_zero_iff] at hlen
    simp [hlen, List.toChunks]
  | succ k ih =>
    have hne : xs ≠ [] := by
      rintro rfl
      rw [List.length_nil] at hlen
      exact (Nat.mul_pos k.succ_pos hn).ne hlen
    have hrest : (xs.drop n).length = k * n := by
      rw [List.length_drop, hlen, Nat.succ_mul, Nat.add_sub_cancel]
    rw [toChunks_of_ne_nil hn hne, ih hrest, List.range_succ_eq_map, List.map_cons, List.map_map]
    congr 1
    · simp
    · apply List.map_congr_left
      intro i _
      rw [List.drop_drop, Function.comp_apply, Nat.succ_mul, Nat.add_comm]

end Pieces

/-! ## Raster order -/

/-- The coordinate is met earlier row by row and from left to right: it lies in a row further up,
or in the same row further left. -/
def Coord.Before (c c' : Coord) : Prop := c.y < c'.y ∨ c.y = c'.y ∧ c.x < c'.x

theorem Coord.Before.ne {c c' : Coord} (h : c.Before c') : c ≠ c' := by
  rintro rfl
  rcases h with h | ⟨-, h⟩
  · exact lt_irrefl _ h
  · exact lt_irrefl _ h

namespace Grid

variable {α : Type u} {g : Grid α} {c : Coord} {a : α} {i j : Nat}

theorem before_coordAt (h : i < j) : (g.coordAt i).Before (g.coordAt j) := by
  have hrow : i / g.width ≤ j / g.width := Nat.div_le_div_right h.le
  have hi := Nat.div_add_mod i g.width
  have hj := Nat.div_add_mod j g.width
  -- In one row the quotients agree, so that the remainders tell the numbers apart.
  rcases hrow.lt_or_eq with hlt | heq
  · exact .inl (Int.ofNat_lt.2 hlt)
  · refine .inr ⟨congrArg Nat.cast heq, Int.ofNat_lt.2 ?_⟩
    rw [heq] at hi
    omega

/-! ## Places -/

theorem index_eq_ok_iff_offset : g.index c = .ok i ↔ g.Contains c ∧ g.offset c = i := by
  unfold index
  split
  · next h => simp [h]
  · next h => simp [h]

theorem index_of_not_contains (h : ¬ g.Contains c) : g.index c = .error (g.offGrid c) := by
  simp [index, h]

theorem index_eq_ok_iff_coordAt : g.index c = .ok i ↔ i < g.size ∧ c = g.coordAt i := by
  rw [index_eq_ok_iff_offset]
  constructor
  · rintro ⟨hc, rfl⟩
    exact ⟨offset_lt_size hc, (coordAt_offset hc).symm⟩
  · rintro ⟨hi, rfl⟩
    exact ⟨contains_coordAt hi, offset_coordAt g i⟩

/-- The numbers below the number of cells are the places, each of one coordinate. -/
theorem lt_size_iff_existsUnique_index : i < g.size ↔ ∃! c, g.index c = .ok i := by
  constructor
  · intro hi
    exact ⟨g.coordAt i, index_eq_ok_iff_coordAt.2 ⟨hi, rfl⟩,
      fun c hc => (index_eq_ok_iff_coordAt.1 hc).2⟩
  · rintro ⟨c, hc, -⟩
    exact (index_eq_ok_iff_coordAt.1 hc).1

/-! ## Listing -/

theorem getElem?_toList :
    g.toList[i]? = some (c, a) ↔ g.index c = .ok i ∧ g.get c = .ok a := by
  have hentry : g.toList[i]? = g.cells[i]?.map fun a => (g.coordAt i, a) := by
    simp [toList, List.getElem?_zipIdx, Function.comp_def]
  rw [hentry, index_eq_ok_iff_offset, get_eq_ok_iff]
  constructor
  · intro h
    obtain ⟨b, hb, heq⟩ := Option.map_eq_some_iff.1 h
    obtain ⟨rfl, rfl⟩ := Prod.mk.inj heq
    obtain ⟨hi, -⟩ := Array.getElem?_eq_some_iff.1 hb
    have hc := contains_coordAt hi
    exact ⟨⟨hc, offset_coordAt g i⟩, hc, by rw [offset_coordAt, hb]⟩
  · rintro ⟨⟨hc, rfl⟩, -, hcell⟩
    rw [hcell, coordAt_offset hc]
    rfl

theorem pairwise_toList_before (g : Grid α) : (g.toList.map Prod.fst).Pairwise Coord.Before := by
  rw [map_fst_toList, List.pairwise_map]
  exact List.pairwise_lt_range.imp before_coordAt

theorem mem_map_fst_toList : c ∈ g.toList.map Prod.fst ↔ g.Contains c := by
  constructor
  · intro h
    obtain ⟨⟨c, a⟩, hmem, rfl⟩ := List.mem_map.1 h
    exact contains_of_get (mem_toList.1 hmem)
  · intro h
    obtain ⟨a, ha⟩ := exists_get h
    exact List.mem_map.2 ⟨(c, a), mem_toList.2 ha, rfl⟩

/-- Each cell is listed once, and no other coordinate is. -/
theorem count_toList (g : Grid α) (c : Coord) :
    (g.toList.map Prod.fst).count c = if g.Contains c then 1 else 0 := by
  have hnodup : (g.toList.map Prod.fst).Nodup := g.pairwise_toList_before.imp Coord.Before.ne
  rw [hnodup.count]
  simp only [mem_map_fst_toList]

/-! ## Rows -/

theorem rows_eq_toChunks (g : Grid α) : g.rows = g.cells.toList.toChunks g.width := by
  have hlen : g.cells.toList.length = g.height * g.width := by
    rw [Array.length_toList, g.size_cells, Nat.mul_comm]
  exact (toChunks_eq_map_range g.width_pos hlen).symm

theorem toOption_get (g : Grid α) (c : Coord) :
    (g.get c).toOption = if g.Contains c then g.cells[g.offset c]? else none := by
  unfold get
  split
  · next h => simp [offset_lt_size h, Except.toOption]
  · rfl

/-- A row holds at each place what the grid holds there, and nothing beyond. -/
theorem entry_rows (g : Grid α) (x y : Nat) :
    g.rows[y]?.bind (·[x]?) = (g.get ⟨x, y⟩).toOption := by
  have hcontains : g.Contains ⟨x, y⟩ ↔ x < g.width ∧ y < g.height := by
    simp only [Contains]
    omega
  have hoffset : g.offset ⟨x, y⟩ = y * g.width + x := rfl
  rw [toOption_get, hoffset]
  by_cases hy : y < g.height
  · by_cases hx : x < g.width
    · simp [rows, hcontains, hx, hy]
    · simp [rows, hcontains, hx, hy]
  · simp [rows, hcontains, hy]

end Grid

end Gridwalk
