import Gridwalk.Proofs.Cycle.Deed
import Mathlib

/-!
# A cycle as a choice of deeds

**Theorem (`cycle_painted`, `cycle_changes`).** A cycle asks for the deed of every cell on the
board as it is when the cycle begins, and goes through these *wishes* in raster order. A wish is
granted if none of its cells belongs to a granted one already (`Deed.grant`). The board after the
cycle is the board before it with the granted deeds written to it, and what is told is exactly
what they write.

The granted deeds have no cell in common (`nodup_grant`), so the order of writing does not matter
any more. The first wish for a cell is always granted (`mem_grant_of_first`).

The proof follows the decisions one by one. `Ledger` is the invariant: the live board is the
snapshot with the deeds done so far, and the marks are their cells.
-/

namespace Gridwalk

namespace Deed

/-! ## Granting -/

/-- Two deeds have a cell in common. -/
def Clash (d e : Deed) : Prop := ∃ c ∈ d.cells, c ∈ e.cells

/-- Goes through deeds in order. A deed is granted if none of its cells is taken, and then takes
its cells. -/
def grant : List Coord → List Deed → List Deed
  | _, [] => []
  | taken, d :: ds =>
    if ∃ c ∈ d.cells, c ∈ taken then grant taken ds else d :: grant (taken ++ d.cells) ds

theorem grant_sublist (taken : List Coord) (ds : List Deed) : (grant taken ds).Sublist ds := by
  induction ds generalizing taken with
  | nil => exact .slnil
  | cons d ds ih =>
    unfold grant
    split
    · exact (ih taken).cons d
    · exact (ih _).cons_cons d

theorem mem_of_mem_grant {taken : List Coord} {ds : List Deed} {d : Deed}
    (h : d ∈ grant taken ds) : d ∈ ds :=
  (grant_sublist taken ds).subset h

/-- Granted deeds avoid the cells that were taken before. -/
theorem not_taken_of_mem_grant {taken : List Coord} {ds : List Deed} {d : Deed}
    (h : d ∈ grant taken ds) : ∀ c ∈ d.cells, c ∉ taken := by
  induction ds generalizing taken with
  | nil => cases h
  | cons e ds ih =>
    unfold grant at h
    split at h
    · exact ih h
    · next hfree =>
      rcases List.mem_cons.1 h with rfl | h
      · exact fun c hc ht => hfree ⟨c, hc, ht⟩
      · exact fun c hc ht => ih h c hc (List.mem_append_left _ ht)

/-- No cell is written by two granted deeds, or twice by one. -/
theorem nodup_grant {ds : List Deed} (h : ∀ d ∈ ds, d.cells.Nodup) (taken : List Coord) :
    ((grant taken ds).flatMap cells).Nodup := by
  induction ds generalizing taken with
  | nil => exact List.nodup_nil
  | cons d ds ih =>
    have htail : ∀ e ∈ ds, e.cells.Nodup := fun e he => h e (List.mem_cons_of_mem d he)
    unfold grant
    split
    · exact ih htail taken
    · rw [List.flatMap_cons]
      refine (h d List.mem_cons_self).append (ih htail _) fun c hc hc' => ?_
      obtain ⟨e, he, hce⟩ := List.mem_flatMap.1 hc'
      exact not_taken_of_mem_grant he c hce (List.mem_append_right _ hc)

/-- A wish is granted if no earlier one clashes with it. -/
theorem mem_grant_of_first {taken : List Coord} {xs ys : List Deed} {d : Deed}
    (hfree : ∀ c ∈ d.cells, c ∉ taken) (hfirst : ∀ x ∈ xs, ¬ Clash d x) :
    d ∈ grant taken (xs ++ d :: ys) := by
  induction xs generalizing taken with
  | nil =>
    have : ¬ ∃ c ∈ d.cells, c ∈ taken := fun ⟨c, hc, ht⟩ => hfree c hc ht
    simp [grant, this]
  | cons x xs ih =>
    have htail : ∀ y ∈ xs, ¬ Clash d y := fun y hy => hfirst y (List.mem_cons_of_mem x hy)
    rw [List.cons_append]
    unfold grant
    split
    · exact ih hfree htail
    · refine List.mem_cons_of_mem x (ih (fun c hc ht => ?_) htail)
      rcases List.mem_append.1 ht with ht | ht
      · exact hfree c hc ht
      · exact hfirst x List.mem_cons_self ⟨c, hc, ht⟩

/-- Deeds that write no cell twice are determined by any of their cells. -/
theorem eq_of_clash {ds : List Deed} (h : (ds.flatMap cells).Nodup) {d e : Deed} (hd : d ∈ ds)
    (he : e ∈ ds) (hclash : Clash d e) : d = e := by
  by_contra hne
  obtain ⟨c, hcd, hce⟩ := hclash
  have : Std.Symm (Function.onFun List.Disjoint cells) := ⟨fun _ _ hab => List.Disjoint.symm hab⟩
  exact (List.nodup_flatMap.1 h).2.forall hd he hne hcd hce

end Deed

/-! ## The ledger -/

/-- The deeds that cells wish to do, given their decisions. -/
def wishes (snapshot : Grid Tile) (ds : List Decision) : List Deed :=
  ds.filterMap fun d => Deed.of? snapshot d.cell d.effective

theorem lawful_of_mem_wishes {snapshot : Grid Tile} {ds : List Decision} {w : Deed}
    (h : w ∈ wishes snapshot ds) : w.Lawful snapshot := by
  obtain ⟨d, -, hd⟩ := List.mem_filterMap.1 h
  exact Deed.lawful_of_of? hd

theorem map_coord_flatMap_writes (deeds : List Deed) :
    (deeds.flatMap Deed.writes).map (·.coord) = deeds.flatMap Deed.cells := by
  rw [List.map_flatMap]
  rfl

/-- One board is another one with deeds done that the other one allows and that do not clash. -/
structure Enacted (before : Grid Tile) (deeds : List Deed) (after : Grid Tile) : Prop where
  painted : Painted before (deeds.flatMap Deed.writes) after
  lawful : ∀ d ∈ deeds, d.Lawful before
  nodup : (deeds.flatMap Deed.cells).Nodup

/-- The first of several deeds can be done on its own. -/
theorem Enacted.exists_cons {before after : Grid Tile} {d : Deed} {ds : List Deed}
    (h : Enacted before (d :: ds) after) :
    ∃ mid, Painted before d.writes mid ∧ Enacted mid ds after := by
  have hnodup := h.nodup
  rw [List.flatMap_cons, List.nodup_append'] at hnodup
  obtain ⟨hd, hds, hdisjoint⟩ := hnodup
  have hpainted := h.painted
  rw [List.flatMap_cons] at hpainted
  obtain ⟨mid, hfirst, hrest⟩ := hpainted.exists_append hd
  refine ⟨mid, hfirst, hrest, fun e he => ?_, hds⟩
  refine (h.lawful e (List.mem_cons_of_mem d he)).congr fun c hc => hfirst.kept c ?_
  exact fun hcd => hdisjoint hcd (List.mem_flatMap.2 ⟨e, he, hc⟩)

/-- What has become of a cell. -/
inductive Fate (before : Grid Tile) (deeds : List Deed) (after : Grid Tile) (c : Coord) : Prop
  | entered (p : Coord) (t target : Tile) (deed : .move p c t ∈ deeds)
      (get_source : before.get p = .ok t) (get_before : before.get c = .ok target)
      (walkable : target.kind.isWalkable = true) (get_after : after.get c = .ok t)
  | vacated (q : Coord) (t : Tile) (deed : .move c q t ∈ deeds) (get_before : before.get c = .ok t)
      (get_after : after.get c = .ok {})
  | turned (t : Tile) (facing : Direction) (deed : .turn c { t with facing } ∈ deeds)
      (get_before : before.get c = .ok t) (get_after : after.get c = .ok { t with facing })
  | kept (untouched : c ∉ deeds.flatMap Deed.cells) (get_after : after.get c = before.get c)

namespace Enacted

variable {before after : Grid Tile} {deeds : List Deed} (h : Enacted before deeds after)
include h

theorem written {d : Deed} (hd : d ∈ deeds) {w : TileChange} (hw : w ∈ d.writes) :
    after.get w.coord = .ok w.tile :=
  h.painted.written w (List.mem_flatMap.2 ⟨d, hd, hw⟩)

theorem kept {c : Coord} (hc : c ∉ deeds.flatMap Deed.cells) : after.get c = before.get c :=
  h.painted.kept c (by rwa [map_coord_flatMap_writes])

theorem eq_of_clash {d e : Deed} (hd : d ∈ deeds) (he : e ∈ deeds) (hclash : Deed.Clash d e) :
    d = e :=
  Deed.eq_of_clash h.nodup hd he hclash

/-- Every cell has been entered, vacated or turned, or is as it was. -/
theorem fate (c : Coord) : Fate before deeds after c := by
  by_cases hc : c ∈ deeds.flatMap Deed.cells
  · obtain ⟨d, hd, hcell⟩ := List.mem_flatMap.1 hc
    cases h.lawful d hd with
    | @move p q t target dir hp hdest hq hwalk =>
      have hentered := h.written hd (w := ⟨q, t⟩) List.mem_cons_self
      have hvacated := h.written hd (w := ⟨p, {}⟩) (List.mem_cons_of_mem _ List.mem_cons_self)
      rcases List.mem_cons.1 hcell with rfl | hcell
      · exact .entered p t target hd hp hq hwalk hentered
      · rw [List.mem_singleton.1 hcell]
        exact .vacated q t hd hp hvacated
    | @turn p t facing hp =>
      have hturned := h.written hd (w := ⟨p, { t with facing }⟩) List.mem_cons_self
      rw [List.mem_singleton.1 hcell]
      exact .turned t facing hd hp hturned
  · exact .kept hc (h.kept hc)

end Enacted

/-- The books of a cycle: `done` are the deeds that have led from the snapshot to here. -/
structure Ledger (snapshot : Grid Tile) (p : Progress) (done : List Deed) : Prop where
  fits : p.live.Fits snapshot
  board : Painted snapshot (done.flatMap Deed.writes) p.live.board
  marks : ∀ c, p.live.Marked c ↔ c ∈ done.flatMap Deed.cells
  changed : p.changed = done.flatMap Deed.cells

namespace Ledger

variable {snapshot : Grid Tile} {p : Progress} {done : List Deed} {d : Decision} (cycle : Nat)

theorem start (snapshot : Grid Tile) : Ledger snapshot ⟨.start snapshot, [], []⟩ [] where
  fits := Live.fits_start snapshot
  board := .refl snapshot
  marks := fun c => by simp [Live.not_marked_start]
  changed := rfl

theorem clash_iff (h : Ledger snapshot p done) {deed : Deed} :
    (∃ c ∈ deed.cells, p.live.Marked c) ↔ ∃ c ∈ deed.cells, c ∈ done.flatMap Deed.cells := by
  simp only [h.marks]

/-- A decision whose deed is free adds it to the ledger. -/
theorem step_of_free (h : Ledger snapshot p done) (hc : snapshot.Contains d.cell) {deed : Deed}
    (hwish : Deed.of? snapshot d.cell d.effective = some deed)
    (hfree : ¬ ∃ c ∈ deed.cells, c ∈ done.flatMap Deed.cells) :
    Ledger snapshot (p.step cycle snapshot d) (done ++ [deed]) := by
  have hactive : d.effective ≠ .idle := by
    intro hidle
    obtain ⟨_, -, hdeed⟩ := Deed.of?_eq_some_iff.1 hwish
    rw [hidle] at hdeed
    cases hdeed
  obtain ⟨a, ha, houtcome⟩ := Live.apply_spec h.fits hc d.effective
  have hstep : p.step cycle snapshot d =
      ⟨a.live, p.changed ++ a.changed, p.records ++ a.records⟩ := by
    simp [Progress.step, hactive, ha]
  rw [hstep]
  cases houtcome with
  | stays hway _ _ => exact absurd (h.clash_iff.1 (hway deed hwish)) hfree
  | does deed' hwish' _ hdone hchanged =>
    rw [hwish] at hwish'
    cases hwish'
    refine ⟨h.fits.done hdone, ?_, fun c => ?_, ?_⟩
    · rw [List.flatMap_append, List.flatMap_singleton]
      refine h.board.trans hdone.board fun w hw hmem => hfree ⟨w.coord, hmem, ?_⟩
      rw [← map_coord_flatMap_writes]
      exact List.mem_map_of_mem hw
    · rw [hdone.marks, h.marks, List.flatMap_append, List.flatMap_singleton, List.mem_append,
        or_comm]
    · rw [List.flatMap_append, List.flatMap_singleton, hchanged, h.changed]

/-- A decision without a deed, or with one that clashes with the ledger, changes nothing. -/
theorem step_of_clash (h : Ledger snapshot p done) (hc : snapshot.Contains d.cell)
    (hclash : ∀ deed, Deed.of? snapshot d.cell d.effective = some deed →
      ∃ c ∈ deed.cells, c ∈ done.flatMap Deed.cells) :
    Ledger snapshot (p.step cycle snapshot d) done := by
  by_cases hidle : d.effective = .idle
  · have hstep : p.step cycle snapshot d = p := by simp [Progress.step, hidle]
    rw [hstep]
    exact h
  obtain ⟨a, ha, houtcome⟩ := Live.apply_spec h.fits hc d.effective
  have hstep : p.step cycle snapshot d =
      ⟨a.live, p.changed ++ a.changed, p.records ++ a.records⟩ := by
    simp [Progress.step, hidle, ha]
  rw [hstep]
  cases houtcome with
  | stays _ hlive hchanged =>
    refine ⟨hlive ▸ h.fits, hlive ▸ h.board, fun c => ?_, ?_⟩
    · rw [hlive, h.marks]
    · rw [hchanged, List.append_nil, h.changed]
  | does deed hwish hfree _ _ =>
    obtain ⟨c, hcell, hmark⟩ := h.clash_iff.2 (hclash deed hwish)
    exact absurd hmark (hfree c hcell)

/-- **The run of a cycle.** Carrying out decisions adds what is granted of their wishes. -/
theorem foldl_step (h : Ledger snapshot p done) {ds : List Decision}
    (hcells : ∀ d ∈ ds, snapshot.Contains d.cell) :
    Ledger snapshot (ds.foldl (Progress.step cycle snapshot) p)
      (done ++ Deed.grant (done.flatMap Deed.cells) (wishes snapshot ds)) := by
  induction ds generalizing p done with
  | nil => simpa [wishes, Deed.grant] using h
  | cons d ds ih =>
    have hd := hcells d List.mem_cons_self
    have hds : ∀ e ∈ ds, snapshot.Contains e.cell :=
      fun e he => hcells e (List.mem_cons_of_mem d he)
    rw [List.foldl_cons]
    cases hwish : Deed.of? snapshot d.cell d.effective with
    | none =>
      have hnone : wishes snapshot (d :: ds) = wishes snapshot ds := by simp [wishes, hwish]
      rw [hnone]
      exact ih (h.step_of_clash cycle hd (by simp [hwish])) hds
    | some deed =>
      have hsome : wishes snapshot (d :: ds) = deed :: wishes snapshot ds := by
        simp [wishes, hwish]
      rw [hsome, Deed.grant]
      split
      · next hclash =>
        refine ih (h.step_of_clash cycle hd fun e he => ?_) hds
        rw [hwish] at he
        cases he
        exact hclash
      · next hfree =>
        have hnext := ih (h.step_of_free cycle hd hwish hfree) hds
        rw [List.flatMap_append, List.flatMap_singleton, List.append_assoc] at hnext
        exact hnext

end Ledger

/-! ## Cycles -/

theorem map_cell_decideCells {σ : Type} (policy : Policy σ) (player : Action)
    (snapshot : Grid Tile) (memory : σ) (cells : List (Coord × Tile)) :
    (decideCells policy player snapshot memory cells).1.map (·.cell) = cells.map Prod.fst := by
  induction cells generalizing memory with
  | nil => rfl
  | cons c cells ih =>
    simp only [decideCells, List.map_cons]
    rw [ih]

/-- Players do what they are told, and the policy decides for all other cells. -/
theorem mem_decideCells {σ : Type} {policy : Policy σ} {player : Action} {snapshot : Grid Tile}
    {memory : σ} {cells : List (Coord × Tile)} {d : Decision}
    (h : d ∈ (decideCells policy player snapshot memory cells).1) :
    ∃ tile, (d.cell, tile) ∈ cells ∧ (tile.kind = .player → d.action = .ok player) ∧
      (tile.kind ≠ .player → ∃ m, d.action = (policy.decide m d.cell snapshot).1) := by
  induction cells generalizing memory with
  | nil => cases h
  | cons c cells ih =>
    obtain ⟨cell, tile⟩ := c
    simp only [decideCells, List.mem_cons] at h
    rcases h with rfl | h
    · refine ⟨tile, List.mem_cons_self, fun hp => by simp [hp], fun hp => ⟨memory, by simp [hp]⟩⟩
    · obtain ⟨t, ht, hrest⟩ := ih h
      exact ⟨t, List.mem_cons_of_mem _ ht, hrest⟩

namespace Engine

variable {σ : Type} (policy : Policy σ) (e : Engine σ) (player : Option Action)

/-- The decisions for all cells in the next cycle. -/
def decisions : List Decision :=
  (decideCells policy (player.getD .idle) e.board e.memory e.board.toList).1

/-- The deeds that are done in the next cycle. -/
def deeds : List Deed := Deed.grant [] (wishes e.board (e.decisions policy player))

theorem map_cell_decisions :
    (e.decisions policy player).map (·.cell) = e.board.toList.map Prod.fst :=
  map_cell_decideCells policy _ e.board e.memory e.board.toList

theorem contains_of_mem_decisions {d : Decision} (h : d ∈ e.decisions policy player) :
    e.board.Contains d.cell := by
  have hmem : d.cell ∈ e.board.toList.map Prod.fst := by
    rw [← map_cell_decisions policy e player]
    exact List.mem_map_of_mem h
  obtain ⟨⟨c, t⟩, ht, hc⟩ := List.mem_map.1 hmem
  rw [← hc]
  exact Grid.contains_of_get (Grid.mem_toList.1 ht)

theorem lawful_of_mem_deeds {deed : Deed} (h : deed ∈ e.deeds policy player) :
    deed.Lawful e.board :=
  lawful_of_mem_wishes (Deed.mem_of_mem_grant h)

/-- No cell is written twice in a cycle. -/
theorem nodup_deeds : ((e.deeds policy player).flatMap Deed.cells).Nodup :=
  Deed.nodup_grant (fun _ hw => (lawful_of_mem_wishes hw).nodup) []

theorem ledger_cycle :
    Ledger e.board (carryOut (e.cycles + 1) e.board (e.decisions policy player))
      (e.deeds policy player) :=
  (Ledger.start e.board).foldl_step _ fun _ hd => contains_of_mem_decisions policy e player hd

/-- **The board after a cycle** is the board before it with the deeds of the cycle. -/
theorem cycle_painted :
    Painted e.board ((e.deeds policy player).flatMap Deed.writes)
      (e.cycle policy player).engine.board :=
  (ledger_cycle policy e player).board

theorem cycle_enacted :
    Enacted e.board (e.deeds policy player) (e.cycle policy player).engine.board where
  painted := cycle_painted policy e player
  lawful := fun _ hd => lawful_of_mem_deeds policy e player hd
  nodup := nodup_deeds policy e player

/-- **What is told about a cycle** is what its deeds write. -/
theorem cycle_changes :
    (e.cycle policy player).changes = (e.deeds policy player).flatMap Deed.writes := by
  have hledger := ledger_cycle policy e player
  show (carryOut _ _ (e.decisions policy player)).changed.filterMap
    (tileChange? (carryOut _ _ (e.decisions policy player)).live.board) = _
  rw [hledger.changed, ← map_coord_flatMap_writes, List.filterMap_map]
  refine (List.filterMap_congr fun w hw => ?_).trans List.filterMap_some
  simp [tileChange?, hledger.board.written w hw]

end Engine

end Gridwalk
