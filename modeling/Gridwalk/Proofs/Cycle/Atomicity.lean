import Gridwalk.Proofs.Cycle.Account
import Gridwalk.Proofs.Grid.Word
import Mathlib

/-!
# Actions happen whole or not at all

Carrying out an action may end early in several places, and a move writes twice and marks twice.

**Theorem (`apply_atomic`).** On a live board that fits the snapshot, an action of a cell

- always comes to something, and all it computes about coordinates fits signed words of 32 bits and
  stays in range if the number of cells does (`Live.InRange`);
- either changes nothing at all, or changes exactly the cells that it tells: these had no mark, have
  one now, and are the only ones that are written (`Live.Whole`);
- leaves a live board that fits the snapshot.

Hence no action of a cycle is skipped because of an error, whatever the policy decides, no cell
whose change is to be told is missing, and as many events are told as the summary says.

What an action writes and marks comes from its outcome (`Live.apply_spec`). In a cycle the live
board fits the snapshot before every decision, since the ledger of the decisions so far says so
(`Engine.fits_carryOut`).
-/

namespace Gridwalk

/-! ## One action -/

namespace Live

variable {live : Live} {snapshot : Grid Tile} {cell : Coord} {action : Action} {a : Applied}

/-- All that is computed about a cell and its neighbours fits words of 32 bits and stays in range:
the sizes, a step in any direction, and the place of any cell on each of the boards. -/
structure InRange (live : Live) (snapshot : Grid Tile) (cell : Coord) : Prop where
  size : FitsWord snapshot.width ∧ FitsWord snapshot.height
  step : ∀ d, FitsWord (cell.step d).x ∧ FitsWord (cell.step d).y
  place : ∀ c, snapshot.Contains c →
    snapshot.Locates c ∧ live.touched.Locates c ∧ live.board.Locates c

/-- An action has changed all the cells that it tells, and nothing else. -/
structure Whole (live : Live) (snapshot : Grid Tile) (a : Applied) : Prop where
  nothing : a.changed = [] → a.live = live
  distinct : a.changed.Nodup
  changed_iff : ∀ c, c ∈ a.changed ↔ ¬ live.Marked c ∧ a.live.Marked c
  kept_board : ∀ c, c ∉ a.changed → a.live.board.get c = live.board.get c
  kept_marks : ∀ c, c ∉ a.changed → a.live.touched.get c = live.touched.get c
  fits : a.live.Fits snapshot

theorem Fits.inRange (h : live.Fits snapshot) (hc : snapshot.Contains cell)
    (hsize : FitsWord (snapshot.width * snapshot.height)) : live.InRange snapshot cell where
  size := ⟨Grid.fitsWord_width hsize, Grid.fitsWord_height hsize⟩
  step := Grid.fitsWord_step hsize hc
  place := by
    intro c hc
    have htouched : FitsWord (live.touched.width * live.touched.height) := by
      rw [h.size_touched.width, h.size_touched.height]
      exact hsize
    have hboard : FitsWord (live.board.width * live.board.height) := by
      rw [h.size_board.width, h.size_board.height]
      exact hsize
    exact ⟨Grid.locates hsize hc, Grid.locates htouched (h.size_touched.contains_iff.2 hc),
      Grid.locates hboard (h.size_board.contains_iff.2 hc)⟩

/-- Marks are known by the cells that have them. -/
theorem touched_get_congr {after : Live} {c : Coord}
    (hsize : Grid.SameSize after.touched live.touched) (h : after.Marked c ↔ live.Marked c) :
    after.touched.get c = live.touched.get c := by
  by_cases hc : live.touched.Contains c
  · obtain ⟨b, hb⟩ := Grid.exists_get hc
    obtain ⟨b', hb'⟩ := Grid.exists_get (hsize.contains_iff.2 hc)
    simp only [Marked, hb, hb', Except.ok.injEq] at h
    rw [hb, hb', Bool.eq_iff_iff.2 h]
  · rw [Grid.get_of_not_contains hc,
      Grid.get_of_not_contains fun h' => hc (hsize.contains_iff.1 h')]
    simp only [Grid.offGrid, hsize.width, hsize.height]

/-- Every outcome of an action is whole. -/
theorem Outcome.whole (h : Outcome live snapshot cell action a) (hfits : live.Fits snapshot) :
    live.Whole snapshot a := by
  cases h with
  | stays _ hlive hchanged =>
    rw [← hlive] at hfits ⊢
    refine ⟨fun _ => rfl, by simp [hchanged], fun c => ?_, fun _ _ => rfl, fun _ _ => rfl, hfits⟩
    simp [hchanged]
  | does deed hwish hfree hdone hchanged =>
    have hkept : ∀ c, c ∉ a.changed → (a.live.Marked c ↔ live.Marked c) := by
      intro c hc
      rw [hchanged] at hc
      simp [hdone.marks, hc]
    constructor
    case nothing =>
      intro hnone
      have hcell := deed.cell_mem_cells
      rw [← hchanged, hnone] at hcell
      cases hcell
    case distinct =>
      rw [hchanged]
      exact (Deed.lawful_of_of? hwish).nodup
    case changed_iff =>
      intro c
      rw [hdone.marks, hchanged]
      constructor
      · intro hc
        exact ⟨hfree c hc, .inl hc⟩
      · rintro ⟨hnot, hc | hmarked⟩
        · exact hc
        · exact absurd hmarked hnot
    case kept_board =>
      intro c hc
      rw [hchanged] at hc
      exact hdone.board.kept c hc
    case kept_marks => exact fun c hc => touched_get_congr hdone.size (hkept c hc)
    case fits => exact hfits.done hdone

end Live

/-! ## Cycles -/

namespace Engine

variable {σ : Type} (policy : Policy σ) (e : Engine σ) (player : Option Action)

/-- Wherever a cycle is in its decisions, the live board fits the snapshot. -/
theorem fits_carryOut {before rest : List Decision}
    (h : e.decisions policy player = before ++ rest) :
    (carryOut (e.cycles + 1) e.board before).live.Fits e.board := by
  have hcells : ∀ d ∈ before, e.board.Contains d.cell := by
    intro d hd
    apply contains_of_mem_decisions policy e player
    rw [h]
    exact List.mem_append_left rest hd
  exact ((Ledger.start e.board).foldl_step (e.cycles + 1) hcells).fits

/-- No decision of a cycle is skipped. -/
theorem exists_apply {before after : List Decision} {d : Decision}
    (h : e.decisions policy player = before ++ d :: after) :
    ∃ a, (carryOut (e.cycles + 1) e.board before).live.apply e.board d.cell d.effective =
      .ok a := by
  have hcell : e.board.Contains d.cell := by
    apply contains_of_mem_decisions policy e player
    rw [h]
    exact List.mem_append_right before List.mem_cons_self
  obtain ⟨a, ha, -⟩ := Live.apply_spec (fits_carryOut policy e player h) hcell d.effective
  exact ⟨a, ha⟩

/-- The cells whose changes are to be told are all on the board. -/
theorem exists_get_of_mem_changed {c : Coord}
    (hc : c ∈ (carryOut (e.cycles + 1) e.board (e.decisions policy player)).changed) :
    ∃ t, (e.cycle policy player).engine.board.get c = .ok t := by
  have hledger := ledger_cycle policy e player
  rw [hledger.changed, ← map_coord_flatMap_writes] at hc
  obtain ⟨w, hw, rfl⟩ := List.mem_map.1 hc
  exact ⟨w.tile, hledger.board.written w hw⟩

/-- **Actions are atomic.** -/
theorem apply_atomic :
    (∀ (live : Live) (snapshot : Grid Tile) (cell : Coord) (action : Action),
      live.Fits snapshot → snapshot.Contains cell →
      FitsWord (snapshot.width * snapshot.height) →
        live.InRange snapshot cell ∧
          ∃ a, live.apply snapshot cell action = .ok a ∧ live.Whole snapshot a) ∧
    ∀ {σ : Type} (policy : Policy σ) (e : Engine σ) (player : Option Action),
      let progress := carryOut (e.cycles + 1) e.board
      (∀ before d after, e.decisions policy player = before ++ d :: after →
        (progress before).live.Fits e.board ∧ e.board.Contains d.cell ∧
          ∃ a, (progress before).live.apply e.board d.cell d.effective = .ok a) ∧
      (∀ c ∈ (progress (e.decisions policy player)).changed,
        ∃ t, (e.cycle policy player).engine.board.get c = .ok t) ∧
      (Output.events (e.cycle policy player).outputs).length =
        (e.cycle policy player).summary.changed := by
  constructor
  · intro live snapshot cell action hfits hcell hsize
    obtain ⟨a, ha, houtcome⟩ := Live.apply_spec hfits hcell action
    exact ⟨hfits.inRange hcell hsize, a, ha, houtcome.whole hfits⟩
  · intro σ policy e player progress
    refine ⟨fun before d after h => ?_, fun c hc => ?_, ?_⟩
    · have hd : d ∈ e.decisions policy player := by simp [h]
      exact ⟨fits_carryOut policy e player h, contains_of_mem_decisions policy e player hd,
        exists_apply policy e player h⟩
    · exact exists_get_of_mem_changed policy e player hc
    · rw [CycleResult.events_outputs, List.length_map, changed_cycle]

end Engine

/-- Of two players that walk towards one empty cell the first changes two cells, and the second,
on the board that this leaves, none. -/
theorem headOn_atomic :
    (Live.start headOn.board).Fits headOn.board ∧ headOn.board.Contains ⟨0, 0⟩ ∧
    headOn.board.Contains ⟨2, 0⟩ ∧ FitsWord (headOn.board.width * headOn.board.height) ∧
    ∃ first second,
      (Live.start headOn.board).apply headOn.board ⟨0, 0⟩ .moveForward = .ok first ∧
      first.changed = [⟨1, 0⟩, ⟨0, 0⟩] ∧ first.live.Fits headOn.board ∧
      first.live.apply headOn.board ⟨2, 0⟩ .moveForward = .ok second ∧
      second.live = first.live := by
  have hstart := Live.fits_start headOn.board
  have hleft : headOn.board.Contains ⟨0, 0⟩ := by decide
  have hright : headOn.board.Contains ⟨2, 0⟩ := by decide
  have hsize : FitsWord (headOn.board.width * headOn.board.height) := by
    constructor <;> decide
  obtain ⟨-, first, hfirst, hwhole⟩ :=
    Engine.apply_atomic.1 _ headOn.board ⟨0, 0⟩ .moveForward hstart hleft hsize
  obtain ⟨-, second, hsecond, hwhole'⟩ :=
    Engine.apply_atomic.1 first.live headOn.board ⟨2, 0⟩ .moveForward hwhole.fits hright hsize
  have htwo : ((Live.start headOn.board).apply headOn.board ⟨0, 0⟩ .moveForward).map (·.changed) =
      .ok [⟨1, 0⟩, ⟨0, 0⟩] := by decide
  have hnone : ((Live.start headOn.board).apply headOn.board ⟨0, 0⟩ .moveForward >>= fun a =>
      a.live.apply headOn.board ⟨2, 0⟩ .moveForward).map (·.changed) = .ok [] := by decide
  rw [hfirst] at htwo
  have hchanged : second.changed = [] := by
    simpa [hfirst, hsecond, bind, Except.bind, Except.map] using hnone
  exact ⟨hstart, hleft, hright, hsize, first, second, hfirst, Except.ok.inj htwo, hwhole.fits,
    hsecond, hwhole'.nothing hchanged⟩

end Gridwalk
