import Gridwalk.Proofs.Cycle.Simultaneous
import Gridwalk.Proofs.Session.View
import Mathlib

/-!
# What is told about a cycle

Whatever the policy decides, the changes that are told are a full account of the cycle (`Account`):

- no cell is named twice, and each comes with the tile that it holds after the cycle;
- a cell that is not named holds what it held;
- the changes are told by the cells that act, in raster order. About a *move* it is told that the
  tile has arrived, and then that its old cell is empty and faces right; about a *turn* it is told
  that the tile has another facing.

**Theorem (`cycle_accounted`).** The changes of a cycle are an account of it, and the summary counts
them. If only players and enemies act, the cells that are named are exactly those whose tile
differs.

The account is the list of the deeds of the cycle, each with what it writes. Without the condition
on who acts a named cell may hold what it held: an empty cell that moves onto an empty cell with the
same facing leaves both as they were.
-/

namespace Gridwalk

/-! ## Accounts -/

/-- What is told about a cell that acts. -/
inductive Told (before : Grid Tile) (dec : Coord → Action) : Coord → List TileChange → Prop
  | moved {p q : Coord} {t : Tile} (get_mover : before.get p = .ok t)
      (contends : Contends before dec p q) :
      Told before dec p [⟨q, t⟩, ⟨p, ⟨.empty, .right⟩⟩]
  | turnedLeft {p : Coord} {t : Tile} (get_actor : before.get p = .ok t)
      (turns : dec p = .turnLeft) :
      Told before dec p [⟨p, ⟨t.kind, t.facing.counterclockwise⟩⟩]
  | turnedRight {p : Coord} {t : Tile} (get_actor : before.get p = .ok t)
      (turns : dec p = .turnRight) :
      Told before dec p [⟨p, ⟨t.kind, t.facing.clockwise⟩⟩]

/-- The changes tell how the cells, acting as `dec` says, take one board to another. -/
structure Account (before : Grid Tile) (dec : Coord → Action) (changes : List TileChange)
    (after : Grid Tile) : Prop where
  distinct : (changes.map (·.coord)).Nodup
  current : ∀ w ∈ changes, after.get w.coord = .ok w.tile
  complete : ∀ c, c ∉ changes.map (·.coord) → after.get c = before.get c
  by_actor : ∃ parts : List (Coord × List TileChange),
    changes = parts.flatMap Prod.snd ∧ (∀ x ∈ parts, Told before dec x.1 x.2) ∧
      parts.Pairwise fun x y => before.offset x.1 < before.offset y.1

theorem Direction.clockwise_ne (d : Direction) : d.clockwise ≠ d := by
  cases d <;> decide

theorem Direction.counterclockwise_ne (d : Direction) : d.counterclockwise ≠ d := by
  cases d <;> decide

/-- Where only players and enemies act, what is told about a cell is new. -/
theorem Told.get_ne {before : Grid Tile} {dec : Coord → Action} {p : Coord}
    {told : List TileChange} (h : Told before dec p told)
    (hactor : ∀ t, before.get p = .ok t → t.kind.isActor = false → dec p = .idle) :
    ∀ w ∈ told, before.get w.coord ≠ .ok w.tile := by
  intro w hw heq
  cases h with
  | @moved q t hmover hcontends =>
    obtain ⟨_, target, -, htarget, hwalk, hheading⟩ := hcontends
    have hacts : t.kind.isActor = true := by
      by_contra hnot
      rw [hactor t hmover (by simpa using hnot)] at hheading
      simp at hheading
    rcases List.mem_cons.1 hw with rfl | hw
    · -- The mover cannot be walked on, unlike the tile that it walks on.
      rw [htarget] at heq
      cases heq
      rw [TileKind.isWalkable_of_isActor hacts] at hwalk
      cases hwalk
    · rw [List.mem_singleton.1 hw, hmover] at heq
      cases heq
      cases hacts
  | turnedLeft hget _ =>
    rw [List.mem_singleton.1 hw, hget] at heq
    exact Direction.counterclockwise_ne _ (congrArg Tile.facing (Except.ok.inj heq)).symm
  | turnedRight hget _ =>
    rw [List.mem_singleton.1 hw, hget] at heq
    exact Direction.clockwise_ne _ (congrArg Tile.facing (Except.ok.inj heq)).symm

/-- Where only players and enemies act, the account names exactly the cells that differ. -/
theorem Account.mem_coords_iff {before after : Grid Tile} {dec : Coord → Action}
    {changes : List TileChange} (h : Account before dec changes after)
    (hactors : ∀ c t, before.get c = .ok t → t.kind.isActor = false → dec c = .idle) (c : Coord) :
    c ∈ changes.map (·.coord) ↔ after.get c ≠ before.get c := by
  constructor
  · intro hc
    obtain ⟨w, hw, rfl⟩ := List.mem_map.1 hc
    obtain ⟨parts, hparts, htold, -⟩ := h.by_actor
    rw [h.current w hw]
    rw [hparts] at hw
    obtain ⟨x, hx, hwx⟩ := List.mem_flatMap.1 hw
    exact ((htold x hx).get_ne (hactors x.1) w hwx).symm
  · intro hne
    by_contra hc
    exact hne (h.complete c hc)

/-! ## The account of a cycle -/

namespace Engine

variable {σ : Type} (policy : Policy σ) (e : Engine σ) (player : Option Action)

/-- What a deed writes is what is told about its cell. -/
theorem told_of_mem_deeds {d : Deed} (h : d ∈ e.deeds policy player) :
    Told e.board (e.actionAt policy player) d.cell d.writes := by
  have hwish := Deed.mem_of_mem_grant h
  obtain ⟨actor, hget, hdeed⟩ := Deed.of?_eq_some_iff.1 (mem_wishes_iff.1 hwish)
  cases d with
  | move p q t =>
    obtain ⟨hmover, hcontends⟩ := move_mem_wishes_iff.1 hwish
    exact .moved hmover hcontends
  | turn p t =>
    simp only [Deed.cell] at hget hdeed ⊢
    cases ha : e.actionAt policy player p with
    | turnLeft =>
      rw [ha] at hdeed
      cases hdeed
      exact .turnedLeft hget ha
    | turnRight =>
      rw [ha] at hdeed
      cases hdeed
      exact .turnedRight hget ha
    | moveForward | moveBack =>
      rw [ha] at hdeed
      obtain ⟨_, -, -, heq⟩ := Deed.stepTo?_eq_some_iff.1 hdeed
      cases heq
    | attack | idle =>
      rw [ha] at hdeed
      cases hdeed

theorem pairwise_deeds :
    (e.deeds policy player).Pairwise fun d d' =>
      e.board.offset d.cell < e.board.offset d'.cell :=
  (pairwise_wishes policy e player).sublist (Deed.grant_sublist [] _)

theorem account_cycle :
    Account e.board (e.actionAt policy player) (e.cycle policy player).changes
      (e.cycle policy player).engine.board := by
  have hpainted := cycle_painted policy e player
  rw [cycle_changes]
  constructor
  case distinct =>
    rw [map_coord_flatMap_writes]
    exact nodup_deeds policy e player
  case current => exact hpainted.written
  case complete => exact hpainted.kept
  case by_actor =>
    refine ⟨(e.deeds policy player).map fun d => (d.cell, d.writes), ?_, fun x hx => ?_, ?_⟩
    · rw [List.flatMap_map]
    · obtain ⟨d, hd, rfl⟩ := List.mem_map.1 hx
      exact told_of_mem_deeds policy e player hd
    · rw [List.pairwise_map]
      exact pairwise_deeds policy e player

/-- The summary counts the cells that are told. -/
theorem changed_cycle :
    (e.cycle policy player).summary.changed = (e.cycle policy player).changes.length := by
  have hledger := ledger_cycle policy e player
  calc (e.cycle policy player).summary.changed
      = ((e.deeds policy player).flatMap Deed.cells).length := congrArg List.length hledger.changed
    _ = (e.cycle policy player).changes.length := by
      rw [cycle_changes, ← map_coord_flatMap_writes, List.length_map]

/-- **The account of a cycle.** The events of a cycle are its changes, these are an account of it,
and the summary counts them; if only players and enemies act, they name exactly the cells whose tile
differs. -/
theorem cycle_accounted :
    Output.events (e.cycle policy player).outputs =
        (e.cycle policy player).changes.map .tileChanged ∧
      Account e.board (e.actionAt policy player) (e.cycle policy player).changes
        (e.cycle policy player).engine.board ∧
      (e.cycle policy player).summary.changed = (e.cycle policy player).changes.length ∧
      (e.ActorsOnly policy player →
        ∀ c, c ∈ (e.cycle policy player).changes.map (·.coord) ↔
          (e.cycle policy player).engine.board.get c ≠ e.board.get c) := by
  have haccount := account_cycle policy e player
  exact ⟨(e.cycle policy player).events_outputs, haccount, changed_cycle policy e player,
    fun hactors => haccount.mem_coords_iff hactors⟩

end Engine

/-- A game in which there is nothing but empty cells. -/
def deserted : Engine Unit := .start (headOn.board.const ⟨.empty, .right⟩) ()

/-- If all cells of it walk, two cells are named and neither differs. -/
example : (deserted.cycle ⟨fun m _ _ => (.ok .moveForward, m)⟩ none).changes.map (·.coord) =
      [⟨1, 0⟩, ⟨0, 0⟩] ∧
    (deserted.cycle ⟨fun m _ _ => (.ok .moveForward, m)⟩ none).engine.board = deserted.board := by
  decide

/-- Of two players that walk towards one empty cell the first moves, and nothing else differs. -/
theorem headOn_accounted :
    headOn.ActorsOnly Mind.policy (some .moveForward) ∧
    (headOn.cycle Mind.policy (some .moveForward)).changes =
      [⟨⟨1, 0⟩, ⟨.player, .right⟩⟩, ⟨⟨0, 0⟩, ⟨.empty, .right⟩⟩] ∧
    ∀ c, (headOn.cycle Mind.policy (some .moveForward)).engine.board.get c ≠ headOn.board.get c ↔
      c ∈ ([⟨1, 0⟩, ⟨0, 0⟩] : List Coord) := by
  have hactors := Mind.actorsOnly.engine headOn (some .moveForward)
  have hchanges : (headOn.cycle Mind.policy (some .moveForward)).changes =
      [⟨⟨1, 0⟩, ⟨.player, .right⟩⟩, ⟨⟨0, 0⟩, ⟨.empty, .right⟩⟩] := by decide
  obtain ⟨-, -, -, hnamed⟩ := Engine.cycle_accounted Mind.policy headOn (some .moveForward)
  refine ⟨hactors, hchanges, fun c => ?_⟩
  rw [← hnamed hactors c, hchanges]
  rfl

end Gridwalk
