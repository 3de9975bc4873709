import Gridwalk.Play.Engine
import Gridwalk.Proofs.Grid
import Mathlib

/-!
# Deeds

A *deed* is what an action does to a board on which nothing has changed yet (`Deed.of?`): a tile
moves to a neighbour that can be walked on, or turns on the spot. It writes to one or two cells.

**One action (`Live.apply_spec`).** On a board where some cells are marked as changed, an action
always comes to something: if all the cells of its deed are unmarked, the deed is done, and its
cells are written and marked; otherwise nothing happens at all. The marks are the only trace that
earlier actions leave in the judgement of later ones.

The invariant that an action needs and restores is `Live.Fits`: a cell without a mark holds what
it held in the snapshot.
-/

namespace Gridwalk

theorem Coord.step_ne (c : Coord) (d : Direction) : c.step d ≠ c := by
  obtain ⟨x, y⟩ := c
  cases d <;> simp [Coord.step, Direction.delta]

/-- What an action does to a board on which nothing has changed yet. -/
inductive Deed where
  /-- The tile of a cell goes to another one and leaves an empty cell that faces right. -/
  | move (cell dest : Coord) (tile : Tile)
  /-- A cell holds a turned tile. -/
  | turn (cell : Coord) (tile : Tile)
  deriving DecidableEq

namespace Deed

/-- The cell that acts. -/
def cell : Deed → Coord
  | move cell _ _ => cell
  | turn cell _ => cell

/-- The tiles that a deed writes, in the order in which this is told. -/
def writes : Deed → List TileChange
  | move cell dest tile => [⟨dest, tile⟩, ⟨cell, {}⟩]
  | turn cell tile => [⟨cell, tile⟩]

/-- The cells that a deed writes to. -/
def cells (d : Deed) : List Coord := d.writes.map (·.coord)

@[simp] theorem cells_move (cell dest : Coord) (tile : Tile) :
    (move cell dest tile).cells = [dest, cell] := rfl

@[simp] theorem cells_turn (cell : Coord) (tile : Tile) : (turn cell tile).cells = [cell] := rfl

theorem cell_mem_cells (d : Deed) : d.cell ∈ d.cells := by
  cases d <;> simp [cell]

theorem eq_cell_or_move_of_mem_cells {d : Deed} {c : Coord} (h : c ∈ d.cells) :
    c = d.cell ∨ ∃ p t, d = move p c t := by
  cases d with
  | move p q t =>
    rcases List.mem_cons.1 h with rfl | h
    · exact .inr ⟨p, t, rfl⟩
    · exact .inl (List.mem_singleton.1 h)
  | turn p t => exact .inl (List.mem_singleton.1 h)

/-- The move of a tile in a direction, if it can be made. -/
def stepTo? (board : Grid Tile) (cell : Coord) (actor : Tile) (d : Direction) : Option Deed :=
  match board.get (cell.step d) with
  | .error _ => none
  | .ok target => if target.kind.isWalkable then some (move cell (cell.step d) actor) else none

/-- The deed of a tile on a cell that is given an action. -/
def ofTile? (board : Grid Tile) (cell : Coord) (actor : Tile) : Action → Option Deed
  | .moveForward => stepTo? board cell actor actor.facing
  | .moveBack => stepTo? board cell actor (-actor.facing)
  | .turnLeft => some (turn cell { actor with facing := actor.facing.counterclockwise })
  | .turnRight => some (turn cell { actor with facing := actor.facing.clockwise })
  | .attack | .idle => none

/-- The deed of a cell that is given an action, if there is one. -/
def of? (board : Grid Tile) (cell : Coord) (action : Action) : Option Deed :=
  match board.get cell with
  | .error _ => none
  | .ok actor => ofTile? board cell actor action

variable {board : Grid Tile} {cell : Coord} {action : Action} {actor : Tile} {deed : Deed}

theorem stepTo?_eq_some_iff {d : Direction} :
    stepTo? board cell actor d = some deed ↔
      ∃ target, board.get (cell.step d) = .ok target ∧ target.kind.isWalkable = true ∧
        deed = move cell (cell.step d) actor := by
  unfold stepTo?
  cases board.get (cell.step d) with
  | error e => simp
  | ok target => cases hw : target.kind.isWalkable <;> simp [hw, eq_comm (a := deed)]

theorem of?_of_get (hget : board.get cell = .ok actor) (action : Action) :
    of? board cell action = ofTile? board cell actor action := by
  simp only [of?, hget]

theorem of?_eq_some_iff :
    of? board cell action = some deed ↔
      ∃ actor, board.get cell = .ok actor ∧ ofTile? board cell actor action = some deed := by
  unfold of?
  cases board.get cell <;> simp

/-- The tile that a deed moves or turns is the one of its cell, and what a tile moves onto can be
walked on. -/
inductive Lawful (board : Grid Tile) : Deed → Prop
  | move {cell dest : Coord} {actor target : Tile} (d : Direction)
      (get_cell : board.get cell = .ok actor) (dest_eq : dest = cell.step d)
      (get_dest : board.get dest = .ok target) (walkable : target.kind.isWalkable = true) :
      Lawful board (.move cell dest actor)
  | turn {cell : Coord} {actor : Tile} (facing : Direction)
      (get_cell : board.get cell = .ok actor) :
      Lawful board (.turn cell { actor with facing })

theorem lawful_of_stepTo? {d : Direction} (hget : board.get cell = .ok actor)
    (h : stepTo? board cell actor d = some deed) : Lawful board deed := by
  obtain ⟨target, ht, hw, rfl⟩ := stepTo?_eq_some_iff.1 h
  exact .move d hget rfl ht hw

theorem lawful_of_of? (h : of? board cell action = some deed) : Lawful board deed := by
  obtain ⟨actor, hget, hdeed⟩ := of?_eq_some_iff.1 h
  cases action with
  | moveForward => exact lawful_of_stepTo? hget hdeed
  | moveBack => exact lawful_of_stepTo? hget hdeed
  | turnLeft => cases hdeed; exact .turn _ hget
  | turnRight => cases hdeed; exact .turn _ hget
  | attack => cases hdeed
  | idle => cases hdeed

theorem cell_of_of? (h : of? board cell action = some deed) : deed.cell = cell := by
  obtain ⟨actor, -, hdeed⟩ := of?_eq_some_iff.1 h
  cases action with
  | moveForward | moveBack =>
    obtain ⟨_, -, -, rfl⟩ := stepTo?_eq_some_iff.1 hdeed
    rfl
  | turnLeft | turnRight => cases hdeed; rfl
  | attack | idle => cases hdeed

namespace Lawful

theorem nodup (h : Lawful board deed) : deed.cells.Nodup := by
  cases h with
  | move d _ hdest _ _ => simp [hdest, Coord.step_ne]
  | turn facing _ => simp

/-- Whether the board allows a deed depends on the cells of the deed only. -/
theorem congr (h : Lawful board deed) {board' : Grid Tile}
    (hget : ∀ c ∈ deed.cells, board'.get c = board.get c) : Lawful board' deed := by
  cases h with
  | @move p q t target dir hp hdest hq hwalk =>
    exact .move dir ((hget p (by simp)).trans hp) hdest ((hget q (by simp)).trans hq) hwalk
  | @turn p t facing hp => exact .turn facing ((hget p (by simp)).trans hp)

end Lawful

end Deed

/-! ## Painted boards -/

/-- One board is another one with some tiles written to it. -/
structure Painted (before : Grid Tile) (writes : List TileChange) (after : Grid Tile) : Prop where
  size : Grid.SameSize after before
  written : ∀ w ∈ writes, after.get w.coord = .ok w.tile
  kept : ∀ c, c ∉ writes.map (·.coord) → after.get c = before.get c

namespace Painted

variable {before mid after : Grid Tile} {ws vs : List TileChange}

theorem refl (board : Grid Tile) : Painted board [] board :=
  ⟨.refl board, by simp, fun _ _ => rfl⟩

/-- Writes to different cells add up. -/
theorem trans (h : Painted before ws mid) (h' : Painted mid vs after)
    (hd : ∀ w ∈ ws, w.coord ∉ vs.map (·.coord)) : Painted before (ws ++ vs) after where
  size := h'.size.trans h.size
  written := by
    intro w hw
    rcases List.mem_append.1 hw with hw | hw
    · rw [h'.kept _ (hd w hw)]
      exact h.written w hw
    · exact h'.written w hw
  kept := by
    intro c hc
    rw [List.map_append, List.mem_append, not_or] at hc
    rw [h'.kept c hc.2, h.kept c hc.1]

theorem of_set {c : Coord} {t : Tile} (h : before.set c t = .ok after) :
    Painted before [⟨c, t⟩] after where
  size := Grid.sameSize_of_set h
  written := by
    intro w hw
    rw [List.mem_singleton.1 hw, Grid.get_of_set h, if_pos rfl]
  kept := by
    intro c' hc'
    rw [Grid.get_of_set h, if_neg (by simpa using hc')]

/-- The first of several writes can be made on its own. -/
theorem exists_set {w : TileChange} (h : Painted before (w :: ws) after) :
    ∃ mid, before.set w.coord w.tile = .ok mid ∧ Painted mid ws after := by
  have hw := h.written w List.mem_cons_self
  obtain ⟨mid, hmid⟩ := Grid.exists_set (h.size.contains_iff.1 (Grid.contains_of_get hw)) w.tile
  refine ⟨mid, hmid, h.size.trans (Grid.sameSize_of_set hmid).symm,
    fun v hv => h.written v (List.mem_cons_of_mem w hv), fun c hc => ?_⟩
  rw [Grid.get_of_set hmid]
  by_cases hcw : c = w.coord
  · rw [if_pos hcw, hcw, hw]
  · rw [if_neg hcw]
    exact h.kept c (by simp [hcw, hc])

/-- The first writes to different cells can be made on their own. -/
theorem exists_append (h : Painted before (ws ++ vs) after) (hnodup : (ws.map (·.coord)).Nodup) :
    ∃ mid, Painted before ws mid ∧ Painted mid vs after := by
  induction ws generalizing before with
  | nil => exact ⟨before, .refl before, h⟩
  | cons w ws ih =>
    rw [List.map_cons, List.nodup_cons] at hnodup
    obtain ⟨next, hset, hrest⟩ := exists_set h
    obtain ⟨mid, hws, hvs⟩ := ih hrest hnodup.2
    refine ⟨mid, (of_set hset).trans hws fun v hv => ?_, hvs⟩
    rw [List.mem_singleton.1 hv]
    exact hnodup.1

theorem eq_of_nil (h : Painted before [] after) : before = after :=
  Grid.ext_get h.size.symm fun c _ => (h.kept c (by simp)).symm

end Painted

/-! ## Marks -/

namespace Live

/-- The cell has changed in this cycle. -/
def Marked (live : Live) (c : Coord) : Prop := live.touched.get c = .ok true

/-- Cells without a mark hold what they hold in the snapshot. -/
structure Fits (live : Live) (snapshot : Grid Tile) : Prop where
  size_board : Grid.SameSize live.board snapshot
  size_touched : Grid.SameSize live.touched snapshot
  agree : ∀ c, ¬ live.Marked c → live.board.get c = snapshot.get c

variable {live : Live} {snapshot : Grid Tile} {cell : Coord} {action : Action} {actor : Tile}

theorem not_marked_start (board : Grid Tile) (c : Coord) : ¬ (Live.start board).Marked c := by
  intro h
  have hc := (Grid.sameSize_const board false).contains_iff.1 (Grid.contains_of_get h)
  have hget := Grid.get_const hc false
  rw [show (board.const false).get c = .ok true from h] at hget
  cases hget

theorem fits_start (board : Grid Tile) : (Live.start board).Fits board :=
  ⟨.refl board, Grid.sameSize_const board false, fun _ _ => rfl⟩

theorem Fits.touched_get (h : live.Fits snapshot) {c : Coord} (hc : snapshot.Contains c) :
    live.touched.get c = .ok true ∨ live.touched.get c = .ok false := by
  obtain ⟨b, hb⟩ := Grid.exists_get (h.size_touched.contains_iff.2 hc)
  cases b with
  | true => exact .inl hb
  | false => exact .inr hb

end Live

/-- Marking cells of the board succeeds, and marks these cells and no others. -/
theorem Verdict.mark_spec (touched : Grid Bool) (cs : List Coord)
    (h : ∀ c ∈ cs, touched.Contains c) :
    ∃ touched', mark touched cs = .ok touched' ∧ Grid.SameSize touched' touched ∧
      ∀ c, touched'.get c = if c ∈ cs then .ok true else touched.get c := by
  induction cs generalizing touched with
  | nil => exact ⟨touched, rfl, .refl touched, fun c => by simp⟩
  | cons c cs ih =>
    obtain ⟨mid, hmid⟩ := Grid.exists_set (h c List.mem_cons_self) true
    have hsize := Grid.sameSize_of_set hmid
    obtain ⟨last, hlast, hsize', hget⟩ :=
      ih mid fun d hd => hsize.contains_iff.2 (h d (List.mem_cons_of_mem c hd))
    refine ⟨last, ?_, hsize'.trans hsize, fun d => ?_⟩
    · simp only [mark, hmid, bind, Except.bind]
      exact hlast
    · rw [hget, Grid.get_of_set hmid]
      by_cases hd : d ∈ cs <;> by_cases hdc : d = c <;> simp [hd, hdc]

/-! ## Carrying out one action -/

/-- A deed is done: its tiles are written, and its cells are marked. -/
structure Live.Done (live : Live) (deed : Deed) (after : Live) : Prop where
  board : Painted live.board deed.writes after.board
  size : Grid.SameSize after.touched live.touched
  marks : ∀ c, after.Marked c ↔ c ∈ deed.cells ∨ live.Marked c

/-- What carrying out an action comes to: nothing, because a cell of its deed is marked, or its
deed. -/
inductive Live.Outcome (live : Live) (snapshot : Grid Tile) (cell : Coord) (action : Action)
    (a : Applied) : Prop
  | stays (in_the_way : ∀ deed, Deed.of? snapshot cell action = some deed →
        ∃ c ∈ deed.cells, live.Marked c)
      (live_eq : a.live = live) (changed : a.changed = [])
  | does (deed : Deed) (wished : Deed.of? snapshot cell action = some deed)
      (free : ∀ c ∈ deed.cells, ¬ live.Marked c)
      (done : live.Done deed a.live) (changed : a.changed = deed.cells)

/-- The verdict on a cell without a mark. -/
theorem Verdict.judge_of_free {snapshot : Grid Tile} {touched : Grid Bool} {cell : Coord}
    {actor : Tile} (hget : snapshot.get cell = .ok actor) (hfree : touched.get cell = .ok false)
    (action : Action) :
    judge snapshot touched cell action =
      match action with
      | .moveForward => judgeStep snapshot touched cell actor.facing
      | .moveBack => judgeStep snapshot touched cell (-actor.facing)
      | .turnLeft => .ok (.turns actor.facing.counterclockwise)
      | .turnRight => .ok (.turns actor.facing.clockwise)
      | .attack => .ok .attacks
      | .idle => .ok .rests := by
  simp only [judge, hget, hfree, bind, Except.bind, Bool.false_eq_true, if_false]
  cases action <;> rfl

/-- The verdict on a step onto the board. -/
theorem Verdict.judgeStep_of_get {snapshot : Grid Tile} {touched : Grid Bool} {cell : Coord}
    {d : Direction} {target : Tile} {mark : Bool}
    (htarget : snapshot.get (cell.step d) = .ok target)
    (hmark : touched.get (cell.step d) = .ok mark) :
    judgeStep snapshot touched cell d =
      .ok (if target.kind.isWalkable && !mark then .moves (cell.step d)
        else .blocked (cell.step d) target.kind) := by
  cases hw : target.kind.isWalkable <;> cases mark <;>
    simp [judgeStep, htarget, hmark, hw, bind, Except.bind, pure, Except.pure]

theorem Verdict.perform_moves {live : Live} {cell dest : Coord} (actor : Tile)
    (hsize : Grid.SameSize live.touched live.board) (hcell : live.board.Contains cell)
    (hdest : live.board.Contains dest) (hne : dest ≠ cell) :
    ∃ after, perform live cell actor (.moves dest) = .ok after ∧
      live.Done (.move cell dest actor) after := by
  obtain ⟨mid, hmid⟩ := Grid.exists_set hdest actor
  obtain ⟨board, hboard⟩ :=
    Grid.exists_set ((Grid.sameSize_of_set hmid).contains_iff.2 hcell) ({} : Tile)
  obtain ⟨touched, htouched, hsize', hget⟩ := mark_spec live.touched [dest, cell] (by
    simp [hsize.contains_iff, hcell, hdest])
  refine ⟨⟨board, touched⟩, ?_, ?_⟩
  · simp [perform, write, changes, hmid, hboard, htouched, bind, Except.bind, pure, Except.pure]
  · refine ⟨(Painted.of_set hmid).trans (.of_set hboard) (by simpa using hne), hsize', ?_⟩
    intro c
    simp only [Live.Marked, hget, Deed.cells_move]
    split <;> simp_all

theorem Verdict.perform_turns {live : Live} {cell : Coord} {actor : Tile} (facing : Direction)
    (hsize : Grid.SameSize live.touched live.board) (hcell : live.board.get cell = .ok actor) :
    ∃ after, perform live cell actor (.turns facing) = .ok after ∧
      live.Done (.turn cell { actor with facing }) after := by
  have hc := Grid.contains_of_get hcell
  obtain ⟨board, hboard⟩ := Grid.exists_set hc { actor with facing }
  obtain ⟨touched, htouched, hsize', hget⟩ := mark_spec live.touched [cell] (by
    simp [hsize.contains_iff, hc])
  refine ⟨⟨board, touched⟩, ?_, ?_⟩
  · simp [perform, write, changes, Grid.modify_eq_set hcell, hboard, htouched, bind, Except.bind,
      pure, Except.pure]
  · refine ⟨.of_set hboard, hsize', ?_⟩
    intro c
    simp only [Live.Marked, hget, Deed.cells_turn]
    split <;> simp_all

/-- A verdict without changes leaves everything as it is. -/
theorem Verdict.perform_of_changes_eq_nil {v : Verdict} {cell : Coord}
    (h : v.changes cell = []) (live : Live) (actor : Tile) :
    v.perform live cell actor = .ok live := by
  cases v with
  | moves dest => cases h
  | turns facing => cases h
  | stale | leavesGrid | blocked | attacks | rests => rfl

namespace Live

variable {live : Live} {snapshot : Grid Tile} {cell : Coord} {action : Action} {actor : Tile}

/-- Once the deed is done, all cells without a mark still agree with the snapshot. -/
theorem Fits.done (h : live.Fits snapshot) {deed : Deed} {after : Live}
    (hd : live.Done deed after) : after.Fits snapshot where
  size_board := hd.board.size.trans h.size_board
  size_touched := hd.size.trans h.size_touched
  agree := by
    intro c hc
    rw [hd.marks, not_or] at hc
    rw [hd.board.kept c hc.1, h.agree c hc.2]

/-- What is done about an action is what its verdict performs. -/
theorem apply_eq_of_judge {v : Verdict} {after : Live} (hget : snapshot.get cell = .ok actor)
    (hjudge : Verdict.judge snapshot live.touched cell action = .ok v)
    (hperform : v.perform live cell actor = .ok after) :
    ∃ a, live.apply snapshot cell action = .ok a ∧ a.live = after ∧
      a.changed = v.changes cell := by
  simp [apply, hget, hjudge, hperform, bind, Except.bind, pure, Except.pure]

/-- An action that is judged to change nothing stays without effect. -/
theorem outcome_of_changes_eq_nil {v : Verdict} (hget : snapshot.get cell = .ok actor)
    (hjudge : Verdict.judge snapshot live.touched cell action = .ok v)
    (hv : v.changes cell = [])
    (hway : ∀ deed, Deed.of? snapshot cell action = some deed → ∃ c ∈ deed.cells, live.Marked c) :
    ∃ a, live.apply snapshot cell action = .ok a ∧ Outcome live snapshot cell action a := by
  obtain ⟨a, ha, hlive, hchanged⟩ :=
    apply_eq_of_judge hget hjudge (Verdict.perform_of_changes_eq_nil hv live actor)
  exact ⟨a, ha, .stays hway hlive (hchanged.trans hv)⟩

/-- A step of an unmarked cell. -/
theorem outcome_of_step (h : live.Fits snapshot) (hget : snapshot.get cell = .ok actor)
    (hfree : live.touched.get cell = .ok false) (d : Direction)
    (hjudge : Verdict.judge snapshot live.touched cell action =
      Verdict.judgeStep snapshot live.touched cell d)
    (hdeed : Deed.of? snapshot cell action = Deed.stepTo? snapshot cell actor d) :
    ∃ a, live.apply snapshot cell action = .ok a ∧ Outcome live snapshot cell action a := by
  have hc := Grid.contains_of_get hget
  cases htarget : snapshot.get (cell.step d) with
  | error e =>
    refine outcome_of_changes_eq_nil (v := .leavesGrid (cell.step d)) hget ?_ rfl ?_
    · simp [hjudge, Verdict.judgeStep, htarget]
    · simp [hdeed, Deed.stepTo?, htarget]
  | ok target =>
    have hdest := Grid.contains_of_get htarget
    obtain ⟨mark, hmark⟩ := Grid.exists_get (h.size_touched.contains_iff.2 hdest)
    rw [Verdict.judgeStep_of_get htarget hmark] at hjudge
    cases hwalk : target.kind.isWalkable with
    | false =>
      rw [hwalk] at hjudge
      refine outcome_of_changes_eq_nil hget hjudge rfl ?_
      simp [hdeed, Deed.stepTo?, htarget, hwalk]
    | true =>
      have hwish : Deed.of? snapshot cell action = some (.move cell (cell.step d) actor) := by
        simp [hdeed, Deed.stepTo?, htarget, hwalk]
      rw [hwalk] at hjudge
      -- Here the verdict depends on the mark, which the deed does not know about.
      cases mark with
      | true =>
        refine outcome_of_changes_eq_nil hget hjudge rfl fun deed hdeed' => ?_
        rw [hwish] at hdeed'
        cases hdeed'
        exact ⟨cell.step d, by simp, hmark⟩
      | false =>
        obtain ⟨after, hafter, hdone⟩ := Verdict.perform_moves actor
          (h.size_touched.trans h.size_board.symm) (h.size_board.contains_iff.2 hc)
          (h.size_board.contains_iff.2 hdest) (Coord.step_ne cell d)
        obtain ⟨a, ha, hlive, hchanged⟩ := apply_eq_of_judge hget hjudge hafter
        refine ⟨a, ha, .does _ hwish ?_ (hlive ▸ hdone) hchanged⟩
        simp [Marked, hmark, hfree]

/-- A turn of an unmarked cell. -/
theorem outcome_of_turn (h : live.Fits snapshot) (hget : snapshot.get cell = .ok actor)
    (hfree : live.touched.get cell = .ok false) (facing : Direction)
    (hjudge : Verdict.judge snapshot live.touched cell action = .ok (.turns facing))
    (hdeed : Deed.of? snapshot cell action = some (.turn cell { actor with facing })) :
    ∃ a, live.apply snapshot cell action = .ok a ∧ Outcome live snapshot cell action a := by
  have hunmarked : ¬ live.Marked cell := by simp [Marked, hfree]
  obtain ⟨after, hafter, hdone⟩ := Verdict.perform_turns facing
    (h.size_touched.trans h.size_board.symm) ((h.agree cell hunmarked).trans hget)
  obtain ⟨a, ha, hlive, hchanged⟩ := apply_eq_of_judge hget hjudge hafter
  exact ⟨a, ha, .does _ hdeed (by simpa using hunmarked) (hlive ▸ hdone) hchanged⟩

/-- **One action.** On a board that fits the snapshot, an action of a cell always has an
outcome. -/
theorem apply_spec (h : live.Fits snapshot) (hc : snapshot.Contains cell) (action : Action) :
    ∃ a, live.apply snapshot cell action = .ok a ∧ Outcome live snapshot cell action a := by
  obtain ⟨actor, hget⟩ := Grid.exists_get hc
  obtain hmark | hfree := h.touched_get hc
  · refine outcome_of_changes_eq_nil (v := .stale) hget ?_ rfl ?_
    · simp [Verdict.judge, hget, hmark, bind, Except.bind, pure, Except.pure]
    · intro deed hdeed
      refine ⟨cell, ?_, hmark⟩
      rw [← Deed.cell_of_of? hdeed]
      exact deed.cell_mem_cells
  · have hjudge := Verdict.judge_of_free hget hfree action
    have hdeed := Deed.of?_of_get hget action
    cases action with
    | moveForward => exact outcome_of_step h hget hfree _ hjudge hdeed
    | moveBack => exact outcome_of_step h hget hfree _ hjudge hdeed
    | turnLeft => exact outcome_of_turn h hget hfree _ hjudge hdeed
    | turnRight => exact outcome_of_turn h hget hfree _ hjudge hdeed
    | attack => exact outcome_of_changes_eq_nil hget hjudge rfl (by simp [hdeed, Deed.ofTile?])
    | idle => exact outcome_of_changes_eq_nil hget hjudge rfl (by simp [hdeed, Deed.ofTile?])

end Live

end Gridwalk
