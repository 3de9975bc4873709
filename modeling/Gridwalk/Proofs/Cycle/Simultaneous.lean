import Gridwalk.Proofs.Cycle.Ledger
import Mathlib

/-!
# Cycles as simultaneous moves

When only players and enemies act, a cycle does not depend on the order in which it goes through
the cells, except that the first of several movers to one cell wins.

**Contenders.** A cell contends for another one if its action takes it there and what lies there,
before the cycle, can be walked on. The contender that comes first in raster order wins.

**Theorem (`cycle_simultaneous`).** After a cycle

- a cell with contenders holds the tile of the winner, and the winner's cell is empty and faces
  right;
- a cell that turns holds its tile with the facing rotated;
- every other cell holds what it held.

No other board has these properties (`Simultaneous.unique`).

The proof looks at the wishes of the cycle. A cell that acts cannot be walked on, so two wishes
clash only if they are moves to the same cell (`clash_cases`). The first wish for a cell is
therefore granted (`mem_deeds_of_first`), and no other wish for that cell is.
-/

namespace Gridwalk

/-- The action of the cell `p` takes its tile to the cell `q`, which can be walked on. -/
def Contends (board : Grid Tile) (dec : Coord → Action) (p q : Coord) : Prop :=
  ∃ actor target, board.get p = .ok actor ∧ board.get q = .ok target ∧
    target.kind.isWalkable = true ∧
    (dec p = .moveForward ∧ q = p.step actor.facing ∨
      dec p = .moveBack ∧ q = p.step (-actor.facing))

/-- The cell `p` is the first contender for `q` in raster order. -/
structure Wins (board : Grid Tile) (dec : Coord → Action) (p q : Coord) : Prop where
  contends : Contends board dec p q
  first : ∀ p', Contends board dec p' q → board.offset p ≤ board.offset p'

/-- All cells act at once, as `dec` says, and take one board to another. -/
structure Simultaneous (before : Grid Tile) (dec : Coord → Action) (after : Grid Tile) : Prop where
  size : Grid.SameSize after before
  contested : ∀ p q, Contends before dec p q → ∃ w, Wins before dec w q
  entered : ∀ w q, Wins before dec w q → after.get q = before.get w
  vacated : ∀ w q, Wins before dec w q → after.get w = .ok ⟨.empty, .right⟩
  turned_left : ∀ c t, before.get c = .ok t → dec c = .turnLeft →
    after.get c = .ok ⟨t.kind, t.facing.counterclockwise⟩
  turned_right : ∀ c t, before.get c = .ok t → dec c = .turnRight →
    after.get c = .ok ⟨t.kind, t.facing.clockwise⟩
  unchanged : ∀ c, (∀ p, ¬ Contends before dec p c) → (∀ q, ¬ Wins before dec c q) →
    dec c ≠ .turnLeft → dec c ≠ .turnRight → after.get c = before.get c

/-- There is at most one board after a simultaneous move. -/
theorem Simultaneous.unique {before after after' : Grid Tile} {dec : Coord → Action}
    (h : Simultaneous before dec after) (h' : Simultaneous before dec after') : after = after' := by
  refine Grid.ext_get (h.size.trans h'.size.symm) fun c hc => ?_
  obtain ⟨t, ht⟩ := Grid.exists_get (h.size.contains_iff.1 hc)
  by_cases hcontends : ∃ p, Contends before dec p c
  · obtain ⟨p, hp⟩ := hcontends
    obtain ⟨w, hw⟩ := h.contested p c hp
    rw [h.entered w c hw, h'.entered w c hw]
  by_cases hwins : ∃ q, Wins before dec c q
  · obtain ⟨q, hq⟩ := hwins
    rw [h.vacated c q hq, h'.vacated c q hq]
  by_cases hleft : dec c = .turnLeft
  · rw [h.turned_left c t ht hleft, h'.turned_left c t ht hleft]
  by_cases hright : dec c = .turnRight
  · rw [h.turned_right c t ht hright, h'.turned_right c t ht hright]
  · rw [not_exists] at hcontends hwins
    rw [h.unchanged c hcontends hwins hleft hright, h'.unchanged c hcontends hwins hleft hright]

/-- Of several contenders there is a first one. -/
theorem Contends.exists_wins {board : Grid Tile} {dec : Coord → Action} {p q : Coord}
    (h : Contends board dec p q) : ∃ w, Wins board dec w q := by
  obtain ⟨w, hw, hmin⟩ := WellFounded.has_min (measure board.offset).wf
    {p | Contends board dec p q} ⟨p, h⟩
  exact ⟨w, hw, fun p' hp' => Nat.le_of_not_lt (hmin p' hp')⟩

theorem TileKind.isWalkable_of_isActor {k : TileKind} (h : k.isActor = true) :
    k.isWalkable = false := by
  cases k <;> first | rfl | cases h

/-! ## The decisions of a cycle -/

namespace Engine

variable {σ : Type} {policy : Policy σ} {e : Engine σ} {player : Option Action}

/-- What a cell does in the next cycle: its decision, and nothing if there is none. -/
def actionAt (policy : Policy σ) (e : Engine σ) (player : Option Action) (c : Coord) : Action :=
  match (e.decisions policy player).find? fun d => d.cell = c with
  | some d => d.effective
  | none => .idle

/-- In the next cycle only players and enemies act. -/
def ActorsOnly (policy : Policy σ) (e : Engine σ) (player : Option Action) : Prop :=
  ∀ c t, e.board.get c = .ok t → t.kind.isActor = false → e.actionAt policy player c = .idle

theorem pairwise_decisions :
    (e.decisions policy player).Pairwise fun d d' =>
      e.board.offset d.cell < e.board.offset d'.cell := by
  have h := Grid.pairwise_toList e.board
  rw [← map_cell_decisions policy e player, List.pairwise_map] at h
  exact h

theorem exists_decision (policy : Policy σ) (player : Option Action) {c : Coord}
    (hc : e.board.Contains c) : ∃ d ∈ e.decisions policy player, d.cell = c := by
  obtain ⟨t, ht⟩ := Grid.exists_get hc
  have hmem : c ∈ (e.decisions policy player).map (·.cell) := by
    rw [map_cell_decisions]
    exact List.mem_map.2 ⟨(c, t), Grid.mem_toList.2 ht, rfl⟩
  obtain ⟨d, hd, hcell⟩ := List.mem_map.1 hmem
  exact ⟨d, hd, hcell⟩

/-- No cell is given two decisions. -/
theorem eq_of_cell_eq {d d' : Decision} (hd : d ∈ e.decisions policy player)
    (hd' : d' ∈ e.decisions policy player) (h : d.cell = d'.cell) : d = d' := by
  have hnodup : ((e.decisions policy player).map (·.cell)).Nodup := by
    rw [List.Nodup, List.pairwise_map]
    exact pairwise_decisions.imp fun hlt heq => by rw [heq] at hlt; omega
  exact List.inj_on_of_nodup_map hnodup hd hd' h

theorem actionAt_cell {d : Decision} (hd : d ∈ e.decisions policy player) :
    e.actionAt policy player d.cell = d.effective := by
  unfold actionAt
  cases hfind : (e.decisions policy player).find? fun x => x.cell = d.cell with
  | none =>
    have := List.find?_eq_none.1 hfind d hd
    simp at this
  | some d' =>
    have hcell : d'.cell = d.cell := by simpa using List.find?_some hfind
    rw [eq_of_cell_eq (List.mem_of_find?_eq_some hfind) hd hcell]

/-- What a cell does is decided by its tile: a player does what it is told, and for any other tile
the policy is asked. -/
theorem actionAt_spec {c : Coord} {t : Tile} (ht : e.board.get c = .ok t) :
    (t.kind = .player → e.actionAt policy player c = player.getD .idle) ∧
      (t.kind ≠ .player → ∃ m, e.actionAt policy player c =
        Decision.effective ⟨c, (policy.decide m c e.board).1⟩) := by
  obtain ⟨d, hd, rfl⟩ := exists_decision policy player (Grid.contains_of_get ht)
  obtain ⟨t', ht', hplayer, hother⟩ := mem_decideCells hd
  have heq : t' = t := by
    have hget := Grid.mem_toList.1 ht'
    rw [ht] at hget
    cases hget
    rfl
  subst heq
  rw [actionAt_cell hd]
  refine ⟨fun hp => ?_, fun hp => ?_⟩
  · rw [Decision.effective, hplayer hp]
  · obtain ⟨m, hm⟩ := hother hp
    refine ⟨m, ?_⟩
    simp only [Decision.effective, hm]

/-- A cell wishes for the deed of its action. -/
theorem mem_wishes_iff {w : Deed} :
    w ∈ wishes e.board (e.decisions policy player) ↔
      Deed.of? e.board w.cell (e.actionAt policy player w.cell) = some w := by
  constructor
  · intro h
    obtain ⟨d, hd, hwish⟩ := List.mem_filterMap.1 h
    rw [Deed.cell_of_of? hwish, actionAt_cell hd]
    exact hwish
  · intro h
    obtain ⟨actor, hget, -⟩ := Deed.of?_eq_some_iff.1 h
    obtain ⟨d, hd, hcell⟩ := exists_decision policy player (Grid.contains_of_get hget)
    refine List.mem_filterMap.2 ⟨d, hd, ?_⟩
    rw [← actionAt_cell hd, hcell]
    exact h

theorem pairwise_wishes (policy : Policy σ) (e : Engine σ) (player : Option Action) :
    (wishes e.board (e.decisions policy player)).Pairwise fun w w' =>
      e.board.offset w.cell < e.board.offset w'.cell := by
  unfold wishes
  rw [List.pairwise_filterMap]
  refine pairwise_decisions.imp fun hlt w hw w' hw' => ?_
  rw [Deed.cell_of_of? hw, Deed.cell_of_of? hw']
  exact hlt

/-- A wish is granted if no wish of an earlier cell clashes with it. -/
theorem mem_deeds_of_first {w : Deed} (hw : w ∈ wishes e.board (e.decisions policy player))
    (hfirst : ∀ x ∈ wishes e.board (e.decisions policy player),
      e.board.offset x.cell < e.board.offset w.cell → ¬ Deed.Clash w x) :
    w ∈ e.deeds policy player := by
  have hpair := pairwise_wishes policy e player
  unfold deeds
  obtain ⟨xs, ys, hsplit⟩ := List.append_of_mem hw
  rw [hsplit] at hfirst hpair ⊢
  refine Deed.mem_grant_of_first (by simp) fun x hx => ?_
  refine hfirst x (List.mem_append_left _ hx) ?_
  exact (List.pairwise_append.1 hpair).2.2 x hx w List.mem_cons_self

/-! ## Wishes of cells that cannot be walked on -/

theorem move_mem_wishes_iff {p q : Coord} {t : Tile} :
    .move p q t ∈ wishes e.board (e.decisions policy player) ↔
      e.board.get p = .ok t ∧ Contends e.board (e.actionAt policy player) p q := by
  rw [mem_wishes_iff, Deed.of?_eq_some_iff]
  simp only [Deed.cell]
  constructor
  · rintro ⟨actor, hget, hdeed⟩
    cases ha : e.actionAt policy player p with
    | moveForward | moveBack =>
      rw [ha] at hdeed
      obtain ⟨target, ht, hwalk, heq⟩ := Deed.stepTo?_eq_some_iff.1 hdeed
      cases heq
      exact ⟨hget, t, target, hget, ht, hwalk, by simp [ha]⟩
    | turnLeft | turnRight | attack | idle =>
      rw [ha] at hdeed
      cases hdeed
  · rintro ⟨hget, actor, target, hget', ht, hwalk, hheading⟩
    rw [hget] at hget'
    cases hget'
    refine ⟨t, hget, ?_⟩
    rcases hheading with ⟨ha, rfl⟩ | ⟨ha, rfl⟩
    · rw [ha]
      exact Deed.stepTo?_eq_some_iff.2 ⟨target, ht, hwalk, rfl⟩
    · rw [ha]
      exact Deed.stepTo?_eq_some_iff.2 ⟨target, ht, hwalk, rfl⟩

theorem isActor_of_mem_wishes (hactors : e.ActorsOnly policy player) {w : Deed}
    (hw : w ∈ wishes e.board (e.decisions policy player)) {t : Tile}
    (ht : e.board.get w.cell = .ok t) : t.kind.isActor = true := by
  by_contra hne
  obtain ⟨actor, -, hdeed⟩ := Deed.of?_eq_some_iff.1 (mem_wishes_iff.1 hw)
  rw [hactors w.cell t ht (by simpa using hne)] at hdeed
  cases hdeed

/-- Nobody contends for a cell that acts. -/
theorem not_contends_of_mem_wishes (hactors : e.ActorsOnly policy player) {w : Deed}
    (hw : w ∈ wishes e.board (e.decisions policy player)) (p : Coord) :
    ¬ Contends e.board (e.actionAt policy player) p w.cell := by
  rintro ⟨-, target, -, htarget, hwalk, -⟩
  rw [TileKind.isWalkable_of_isActor (isActor_of_mem_wishes hactors hw htarget)] at hwalk
  cases hwalk

/-- Two wishes clash only if they are one, or moves to the same cell. -/
theorem clash_cases (hactors : e.ActorsOnly policy player) {w w' : Deed}
    (hw : w ∈ wishes e.board (e.decisions policy player))
    (hw' : w' ∈ wishes e.board (e.decisions policy player)) (h : Deed.Clash w w') :
    w = w' ∨ ∃ p p' q t t', w = .move p q t ∧ w' = .move p' q t' := by
  obtain ⟨c, hc, hc'⟩ := h
  -- A cell that acts is no target of a move, so the common cell acts in both or in neither.
  rcases Deed.eq_cell_or_move_of_mem_cells hc with rfl | ⟨p, t, rfl⟩
  · rcases Deed.eq_cell_or_move_of_mem_cells hc' with heq | ⟨p', t', rfl⟩
    · left
      have hwish := mem_wishes_iff.1 hw
      have hwish' := mem_wishes_iff.1 hw'
      rw [← heq, hwish] at hwish'
      exact Option.some.inj hwish'
    · exact absurd (move_mem_wishes_iff.1 hw').2 (not_contends_of_mem_wishes hactors hw p')
  · rcases Deed.eq_cell_or_move_of_mem_cells hc' with rfl | ⟨p', t', rfl⟩
    · exact absurd (move_mem_wishes_iff.1 hw).2 (not_contends_of_mem_wishes hactors hw' p)
    · exact .inr ⟨p, p', c, t, t', rfl, rfl⟩

/-! ## Which wishes are granted -/

theorem mem_deeds_of_wins (hactors : e.ActorsOnly policy player) {p q : Coord}
    (h : Wins e.board (e.actionAt policy player) p q) :
    ∃ t, e.board.get p = .ok t ∧ .move p q t ∈ e.deeds policy player := by
  obtain ⟨t, -, hget, -⟩ := h.contends
  have hwish := move_mem_wishes_iff.2 ⟨hget, h.contends⟩
  refine ⟨t, hget, mem_deeds_of_first hwish fun x hx hlt hclash => ?_⟩
  rcases clash_cases hactors hwish hx hclash with rfl | ⟨_, p', _, _, t', heq, rfl⟩
  · omega
  · cases heq
    have hle := h.first p' (move_mem_wishes_iff.1 hx).2
    simp only [Deed.cell] at hlt
    omega

theorem wins_of_mem_deeds (hactors : e.ActorsOnly policy player) {p q : Coord} {t : Tile}
    (h : .move p q t ∈ e.deeds policy player) : Wins e.board (e.actionAt policy player) p q := by
  have hcontends := (move_mem_wishes_iff.1 (Deed.mem_of_mem_grant h)).2
  obtain ⟨w, hw⟩ := hcontends.exists_wins
  obtain ⟨t', -, hmem⟩ := mem_deeds_of_wins hactors hw
  have heq := (cycle_enacted policy e player).eq_of_clash h hmem ⟨q, by simp, by simp⟩
  cases heq
  exact hw

/-- All turns are granted. -/
theorem turn_mem_deeds (hactors : e.ActorsOnly policy player) {c : Coord} {t : Tile}
    (h : .turn c t ∈ wishes e.board (e.decisions policy player)) :
    .turn c t ∈ e.deeds policy player := by
  refine mem_deeds_of_first h fun x hx hlt hclash => ?_
  rcases clash_cases hactors h hx hclash with rfl | ⟨_, _, _, _, _, heq, -⟩
  · omega
  · cases heq

/-- The only cells that change are those of winners, what they win, and those that turn. -/
theorem not_mem_cells_of_unchanged (hactors : e.ActorsOnly policy player) {c : Coord}
    (hcontends : ∀ p, ¬ Contends e.board (e.actionAt policy player) p c)
    (hwins : ∀ q, ¬ Wins e.board (e.actionAt policy player) c q)
    (hleft : e.actionAt policy player c ≠ .turnLeft)
    (hright : e.actionAt policy player c ≠ .turnRight) :
    c ∉ (e.deeds policy player).flatMap Deed.cells := by
  intro hc
  obtain ⟨d, hd, hcell⟩ := List.mem_flatMap.1 hc
  cases d with
  | move p q t =>
    have hwin := wins_of_mem_deeds hactors hd
    rcases List.mem_cons.1 hcell with rfl | hcell
    · exact hcontends p hwin.contends
    · rw [List.mem_singleton.1 hcell] at hwins
      exact hwins q hwin
  | turn p t =>
    have heq : c = p := List.mem_singleton.1 hcell
    subst heq
    obtain ⟨actor, -, hdeed⟩ :=
      Deed.of?_eq_some_iff.1 (mem_wishes_iff.1 (Deed.mem_of_mem_grant hd))
    simp only [Deed.cell] at hdeed
    cases ha : e.actionAt policy player c with
    | turnLeft => exact hleft ha
    | turnRight => exact hright ha
    | moveForward | moveBack =>
      rw [ha] at hdeed
      obtain ⟨_, -, -, heq⟩ := Deed.stepTo?_eq_some_iff.1 hdeed
      cases heq
    | attack | idle =>
      rw [ha] at hdeed
      cases hdeed

end Engine

/-! ## Policies under which only players and enemies act -/

/-- Asked about a cell that holds neither a player nor an enemy, the policy has it do nothing. -/
def Policy.ActorsOnly {σ : Type} (policy : Policy σ) : Prop :=
  ∀ memory cell board tile, board.get cell = .ok tile → tile.kind.isActor = false →
    Decision.effective ⟨cell, (policy.decide memory cell board).1⟩ = .idle

theorem Policy.ActorsOnly.engine {σ : Type} {policy : Policy σ} (h : policy.ActorsOnly)
    (e : Engine σ) (player : Option Action) : e.ActorsOnly policy player := by
  intro c t ht hkind
  have hother : t.kind ≠ .player := by
    intro hp
    rw [hp] at hkind
    cases hkind
  obtain ⟨m, hm⟩ := (Engine.actionAt_spec ht).2 hother
  rw [hm]
  exact h m c e.board t ht hkind

/-- Both policies that come with the game are of this kind. -/
theorem Mind.actorsOnly : Mind.policy.ActorsOnly := by
  intro m cell board tile hget hkind
  have henemy : tile.kind ≠ .enemy := by
    intro he
    rw [he] at hkind
    cases hkind
  cases m <;> simp [Mind.policy, Mind.decide, hget, henemy, Decision.effective]

/-! ## The cycle -/

namespace Engine

variable {σ : Type} {policy : Policy σ} {e : Engine σ} {player : Option Action}

theorem turned_of_actionAt (hactors : e.ActorsOnly policy player) {c : Coord} {t t' : Tile}
    (ht : e.board.get c = .ok t)
    (hdeed : Deed.ofTile? e.board c t (e.actionAt policy player c) = some (.turn c t')) :
    (e.cycle policy player).engine.board.get c = .ok t' := by
  have hwish : .turn c t' ∈ wishes e.board (e.decisions policy player) :=
    mem_wishes_iff.2 (Deed.of?_eq_some_iff.2 ⟨t, ht, hdeed⟩)
  exact (cycle_enacted policy e player).written (turn_mem_deeds hactors hwish) List.mem_cons_self

/-- The board after a cycle is one after a simultaneous move. -/
theorem simultaneous_cycle (hactors : e.ActorsOnly policy player) :
    Simultaneous e.board (e.actionAt policy player) (e.cycle policy player).engine.board := by
  have henacted := cycle_enacted policy e player
  constructor
  case size => exact henacted.painted.size
  case contested => exact fun p q h => h.exists_wins
  case entered =>
    intro w q h
    obtain ⟨t, ht, hd⟩ := mem_deeds_of_wins hactors h
    rw [ht]
    exact henacted.written hd List.mem_cons_self
  case vacated =>
    intro w q h
    obtain ⟨t, -, hd⟩ := mem_deeds_of_wins hactors h
    exact henacted.written hd (List.mem_cons_of_mem _ List.mem_cons_self)
  case turned_left =>
    intro c t ht ha
    exact turned_of_actionAt hactors ht (by rw [ha]; rfl)
  case turned_right =>
    intro c t ht ha
    exact turned_of_actionAt hactors ht (by rw [ha]; rfl)
  case unchanged =>
    intro c hcontends hwins hleft hright
    exact henacted.kept (not_mem_cells_of_unchanged hactors hcontends hwins hleft hright)

/-- **Cycles are simultaneous.** If only players and enemies act, the board after the cycle is the
one after all actions at once: what the players are told, and what the policy decides. -/
theorem cycle_simultaneous (policy : Policy σ) (e : Engine σ) (player : Option Action)
    (hactors : e.ActorsOnly policy player) :
    (∀ c t, e.board.get c = .ok t →
      (t.kind = .player → e.actionAt policy player c = player.getD .idle) ∧
        (t.kind ≠ .player → ∃ m, e.actionAt policy player c =
          Decision.effective ⟨c, (policy.decide m c e.board).1⟩)) ∧
    ∀ after, Simultaneous e.board (e.actionAt policy player) after ↔
      after = (e.cycle policy player).engine.board := by
  refine ⟨fun c t ht => actionAt_spec ht, fun after => ⟨fun h => ?_, fun h => ?_⟩⟩
  · exact h.unique (simultaneous_cycle hactors)
  · rw [h]
    exact simultaneous_cycle hactors

end Engine

/-- Two players that walk towards one empty cell. -/
def headOn : Engine Mind :=
  .start ⟨3, 1, #[⟨.player, .right⟩, ⟨.empty, .right⟩, ⟨.player, .left⟩], rfl, by decide, by decide⟩
    .idle

/-- The player that comes first in raster order gets the cell. -/
theorem headOn_simultaneous :
    headOn.ActorsOnly Mind.policy (some .moveForward) ∧
    Simultaneous headOn.board (headOn.actionAt Mind.policy (some .moveForward))
      (headOn.cycle Mind.policy (some .moveForward)).engine.board ∧
    (headOn.cycle Mind.policy (some .moveForward)).engine.board.cells =
      #[⟨.empty, .right⟩, ⟨.player, .right⟩, ⟨.player, .left⟩] := by
  have hactors := Mind.actorsOnly.engine headOn (some .moveForward)
  have hcycle := Engine.cycle_simultaneous Mind.policy headOn (some .moveForward) hactors
  exact ⟨hactors, (hcycle.2 _).2 rfl, by decide⟩

end Gridwalk
