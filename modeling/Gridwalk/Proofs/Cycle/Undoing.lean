import Gridwalk.Proofs.Cycle.Account
import Gridwalk.Proofs.Cycle.Wandering
import Mathlib

/-!
# Actions that undo each other

Where only the players act, what they are told decides everything.

**Theorem (`players_undo`).** Under the idle policy

- a turn and then the turn to the other side restore the board, and so do four equal turns; every
  cycle of turns changes one cell for each player, in raster order;
- if a single player's move changes anything, the move the other way succeeds after it, and the
  board is the one from before with the cell that was entered empty and facing right.

**The deeds of players (`deeds_idle`).** The idle policy leaves the wishes to the players. Turns of
different cells do not clash, so all of them are granted; and a single wish is always granted.

**Turns (`get_board_play_turns`).** A cycle of turns replaces each player by the turned one and
nothing else, so turns add up to what they do to a single tile.
-/

namespace Gridwalk

/-! ## Directions and actions -/

theorem Direction.neg_neg (d : Direction) : -(-d) = d := by
  cases d <;> rfl

theorem Direction.delta_neg (d : Direction) : (-d).delta = (-d.delta.1, -d.delta.2) := by
  cases d <;> rfl

/-- A step back leads to where a step came from. -/
theorem Coord.step_step_neg (c : Coord) (d : Direction) : (c.step d).step (-d) = c := by
  simp [Coord.step, Direction.delta_neg]

namespace Action

/-- The action the other way. -/
def reverse : Action → Action
  | moveForward => moveBack
  | moveBack => moveForward
  | turnLeft => turnRight
  | turnRight => turnLeft
  | attack => attack
  | idle => idle

def isTurn : Action → Bool
  | turnLeft | turnRight => true
  | moveForward | moveBack | attack | idle => false

def isMove : Action → Bool
  | moveForward | moveBack => true
  | turnLeft | turnRight | attack | idle => false

/-- The facing of a tile after an action. -/
def turned (a : Action) (facing : Direction) : Direction :=
  match a with
  | turnLeft => facing.counterclockwise
  | turnRight => facing.clockwise
  | moveForward | moveBack | attack | idle => facing

/-- The direction in which a tile moves, if the action is a move. -/
def heading (a : Action) (facing : Direction) : Direction :=
  match a with
  | moveBack => -facing
  | moveForward | turnLeft | turnRight | attack | idle => facing

variable {a : Action}

theorem isTurn_reverse (h : a.isTurn = true) : a.reverse.isTurn = true := by
  cases a <;> first | rfl | cases h

theorem isMove_reverse (h : a.isMove = true) : a.reverse.isMove = true := by
  cases a <;> first | rfl | cases h

theorem turned_reverse (a : Action) (d : Direction) : a.reverse.turned (a.turned d) = d := by
  cases a <;> cases d <;> rfl

theorem turned_four (a : Action) (d : Direction) :
    a.turned (a.turned (a.turned (a.turned d))) = d := by
  cases a <;> cases d <;> rfl

theorem heading_reverse (h : a.isMove = true) (d : Direction) :
    a.reverse.heading d = -(a.heading d) := by
  cases a with
  | moveForward => rfl
  | moveBack => exact (Direction.neg_neg d).symm
  | turnLeft | turnRight | attack | idle => cases h

end Action

/-- What becomes of a tile when the players turn. -/
def Tile.turnedBy (t : Tile) (a : Action) : Tile :=
  if t.kind = .player then { t with facing := a.turned t.facing } else t

theorem Tile.kind_turnedBy (t : Tile) (a : Action) : (t.turnedBy a).kind = t.kind := by
  unfold turnedBy
  split <;> rfl

theorem Tile.turnedBy_reverse (t : Tile) (a : Action) : (t.turnedBy a).turnedBy a.reverse = t := by
  obtain ⟨kind, facing⟩ := t
  by_cases h : kind = .player <;> simp [turnedBy, h, Action.turned_reverse]

theorem Tile.turnedBy_four (t : Tile) (a : Action) :
    (((t.turnedBy a).turnedBy a).turnedBy a).turnedBy a = t := by
  obtain ⟨kind, facing⟩ := t
  by_cases h : kind = .player <;> simp [turnedBy, h, Action.turned_four]

/-! ## Players -/

namespace Grid

/-- The players of a board with their tiles, in raster order. -/
def players (g : Grid Tile) : List (Coord × Tile) := g.toList.filter fun p => p.2.kind = .player

variable {g : Grid Tile} {c : Coord} {t : Tile}

theorem mem_players : (c, t) ∈ g.players ↔ g.get c = .ok t ∧ t.kind = .player := by
  simp [players, mem_toList]

theorem length_players (g : Grid Tile) : g.players.length = g.count .player := rfl

/-- No cell holds two players. -/
theorem nodup_players (g : Grid Tile) : (g.players.map Prod.fst).Nodup := by
  have hsorted : (g.toList.map Prod.fst).Nodup := by
    apply (pairwise_toList g).imp
    intro c c' hlt heq
    rw [heq] at hlt
    exact Nat.lt_irrefl _ hlt
  exact hsorted.sublist (List.filter_sublist.map Prod.fst)

/-- Boards of one size with players on the same cells list them in the same order. -/
theorem map_fst_players_congr {g' : Grid Tile} (hsize : SameSize g' g)
    (h : ∀ c, (∃ t, g'.get c = .ok t ∧ t.kind = .player) ↔
      ∃ t, g.get c = .ok t ∧ t.kind = .player) :
    g'.players.map Prod.fst = g.players.map Prod.fst := by
  classical
  have hlist (k : Grid Tile) : k.players.map Prod.fst =
      (k.toList.map Prod.fst).filter fun c => ∃ t, k.get c = .ok t ∧ t.kind = .player := by
    rw [players, List.filter_map]
    congr 1
    apply List.filter_congr
    rintro ⟨c, t⟩ hmem
    simp [mem_toList.1 hmem]
  have hcells : g'.toList.map Prod.fst = g.toList.map Prod.fst := by
    rw [map_fst_toList, map_fst_toList, g'.size_cells, g.size_cells, hsize.width, hsize.height]
    apply List.map_congr_left
    intro i _
    simp only [coordAt, hsize.width]
  rw [hlist, hlist, hcells]
  apply List.filter_congr
  intro c _
  simp only [h c]

theorem exists_players_eq (h : g.count .player = 1) : ∃ p t, g.players = [(p, t)] := by
  rw [← length_players] at h
  obtain ⟨⟨p, t⟩, hp⟩ := List.length_eq_one_iff.1 h
  exact ⟨p, t, hp⟩

theorem players_eq_of_mem (h : g.count .player = 1) (hmem : (c, t) ∈ g.players) :
    g.players = [(c, t)] := by
  obtain ⟨p, t', hp⟩ := exists_players_eq h
  rw [hp] at hmem ⊢
  rw [List.mem_singleton.1 hmem]

end Grid

/-- A tile that has gone to another cell and come back leaves that cell empty. -/
theorem Painted.set_of_return {before mid after : Grid Tile} {p q : Coord} {t : Tile}
    (hout : Painted before [⟨q, t⟩, ⟨p, {}⟩] mid) (hback : Painted mid [⟨p, t⟩, ⟨q, {}⟩] after)
    (hp : before.get p = .ok t) (hq : before.Contains q) : before.set q {} = .ok after := by
  obtain ⟨last, hset⟩ := Grid.exists_set hq ({} : Tile)
  rw [hset]
  congr 1
  apply Grid.ext_get ((Grid.sameSize_of_set hset).trans (hback.size.trans hout.size).symm)
  intro c _
  rw [Grid.get_of_set hset]
  by_cases hcq : c = q
  · rw [if_pos hcq, hcq]
    exact (hback.written ⟨q, {}⟩ (List.mem_cons_of_mem _ List.mem_cons_self)).symm
  · rw [if_neg hcq]
    by_cases hcp : c = p
    · rw [hcp, hp]
      exact (hback.written ⟨p, t⟩ List.mem_cons_self).symm
    · rw [hback.kept c (by simp [hcp, hcq]), hout.kept c (by simp [hcp, hcq])]

/-! ## Cycles in which only the players act -/

/-- Deeds of different cells that are free are all granted. -/
theorem Deed.grant_eq_self {taken : List Coord} {ds : List Deed}
    (h : (taken ++ ds.flatMap cells).Nodup) : grant taken ds = ds := by
  induction ds generalizing taken with
  | nil => rfl
  | cons d ds ih =>
    rw [List.flatMap_cons, ← List.append_assoc] at h
    have hfree : ¬ ∃ c ∈ d.cells, c ∈ taken := by
      rintro ⟨c, hc, ht⟩
      exact (List.nodup_append'.1 (List.nodup_append'.1 h).1).2.2 ht hc
    rw [grant, if_neg hfree, ih h]

/-- Asked for cells of a board, the idle mind leaves all but the players idle. -/
theorem decideCells_idle {board : Grid Tile} {cells : List (Coord × Tile)}
    (hcells : ∀ p ∈ cells, board.get p.1 = .ok p.2) (player : Action) :
    decideCells Mind.policy player board .idle cells =
      (cells.map fun p => ⟨p.1, .ok (if p.2.kind = .player then player else .idle)⟩, .idle) := by
  induction cells with
  | nil => rfl
  | cons p cells ih =>
    obtain ⟨cell, tile⟩ := p
    obtain ⟨hget, hrest⟩ := List.forall_mem_cons.1 hcells
    have haction : (if tile.kind = .player then (.ok player, Mind.idle)
        else Mind.policy.decide .idle cell board) =
          (.ok (if tile.kind = .player then player else .idle), Mind.idle) := by
      by_cases hplayer : tile.kind = .player
      · simp only [hplayer, if_true]
      · simp only [hplayer, if_false, Mind.policy, Mind.decide, hget]
    rw [decideCells_cons haction, ih hrest, List.map_cons]

namespace Engine

variable {e : Engine Mind} {a : Action}

theorem decideCells_toList (h : e.memory = .idle) (player : Option Action) :
    decideCells Mind.policy (player.getD .idle) e.board e.memory e.board.toList =
      (e.board.toList.map fun p =>
        ⟨p.1, .ok (if p.2.kind = .player then player.getD .idle else .idle)⟩, .idle) := by
  rw [h]
  exact decideCells_idle (fun p hp => Grid.mem_toList.1 hp) _

theorem memory_cycle_idle (h : e.memory = .idle) (player : Option Action) :
    (e.cycle Mind.policy player).engine.memory = .idle :=
  congrArg Prod.snd (decideCells_toList h player)

/-- Only the players have wishes. -/
theorem wishes_idle (h : e.memory = .idle) (a : Action) :
    wishes e.board (e.decisions Mind.policy (some a)) =
      e.board.players.filterMap fun p => Deed.ofTile? e.board p.1 p.2 a := by
  rw [decisions, decideCells_toList h, wishes, List.filterMap_map, Grid.players,
    List.filterMap_filter]
  apply List.filterMap_congr
  rintro ⟨c, t⟩ hmem
  simp only [Function.comp_apply, Decision.effective, Deed.of?_of_get (Grid.mem_toList.1 hmem)]
  by_cases hplayer : t.kind = .player
  · simp [hplayer]
  · simp [hplayer, Deed.ofTile?]

/-! ## Turns -/

/-- All players turn. -/
theorem deeds_turn (h : e.memory = .idle) (hturn : a.isTurn = true) :
    e.deeds Mind.policy (some a) =
      e.board.players.map fun p => .turn p.1 (p.2.turnedBy a) := by
  have hwishes : wishes e.board (e.decisions Mind.policy (some a)) =
      e.board.players.map fun p => .turn p.1 (p.2.turnedBy a) := by
    rw [wishes_idle h, ← List.filterMap_eq_map]
    apply List.filterMap_congr
    rintro ⟨c, t⟩ hmem
    have hplayer := (Grid.mem_players.1 hmem).2
    cases a with
    | turnLeft | turnRight => simp [Deed.ofTile?, Tile.turnedBy, hplayer, Action.turned]
    | moveForward | moveBack | attack | idle => cases hturn
  rw [deeds, hwishes]
  apply Deed.grant_eq_self
  rw [List.nil_append, List.flatMap_map]
  simpa [← List.map_eq_flatMap] using e.board.nodup_players

theorem changes_turn (h : e.memory = .idle) (hturn : a.isTurn = true) :
    (e.cycle Mind.policy (some a)).changes =
      e.board.players.map fun p => ⟨p.1, p.2.turnedBy a⟩ := by
  rw [cycle_changes, deeds_turn h hturn, List.flatMap_map]
  simp [Deed.writes, ← List.map_eq_flatMap]

/-- A cycle of turns replaces each player by the turned one. -/
theorem get_board_turn (h : e.memory = .idle) (hturn : a.isTurn = true) (c : Coord) :
    (e.cycle Mind.policy (some a)).engine.board.get c = (e.board.get c).map (·.turnedBy a) := by
  have haccount := account_cycle Mind.policy e (some a)
  by_cases hc : ∃ t, (c, t) ∈ e.board.players
  · obtain ⟨t, ht⟩ := hc
    have hchange : ⟨c, t.turnedBy a⟩ ∈ (e.cycle Mind.policy (some a)).changes := by
      rw [changes_turn h hturn]
      exact List.mem_map.2 ⟨(c, t), ht, rfl⟩
    rw [haccount.current _ hchange, (Grid.mem_players.1 ht).1]
    rfl
  · have hkept : c ∉ (e.cycle Mind.policy (some a)).changes.map (·.coord) := by
      rw [changes_turn h hturn, List.map_map]
      intro hmem
      obtain ⟨⟨c', t⟩, ht, rfl⟩ := List.mem_map.1 hmem
      exact hc ⟨t, ht⟩
    rw [haccount.complete c hkept]
    cases hget : e.board.get c with
    | error _ => rfl
    | ok t =>
      have hother : t.kind ≠ .player := fun hp => hc ⟨t, Grid.mem_players.2 ⟨hget, hp⟩⟩
      simp [Except.map, Tile.turnedBy, hother]

theorem memory_play_turns (h : e.memory = .idle) (turns : List Action) :
    (e.play Mind.policy (turns.map some)).memory = .idle := by
  induction turns generalizing e with
  | nil => exact h
  | cons a turns ih => exact ih (memory_cycle_idle h (some a))

/-- **Turns add up** to what they do to a single tile. -/
theorem get_board_play_turns (h : e.memory = .idle) {turns : List Action}
    (hturns : ∀ a ∈ turns, a.isTurn = true) (c : Coord) :
    (e.play Mind.policy (turns.map some)).board.get c =
      (e.board.get c).map fun t => turns.foldl Tile.turnedBy t := by
  induction turns generalizing e with
  | nil =>
    show e.board.get c = _
    cases e.board.get c <;> rfl
  | cons a turns ih =>
    obtain ⟨ha, hrest⟩ := List.forall_mem_cons.1 hturns
    have hlater := ih (memory_cycle_idle h (some a)) hrest
    rw [get_board_turn h ha] at hlater
    show ((e.cycle Mind.policy (some a)).engine.play Mind.policy (turns.map some)).board.get c = _
    rw [hlater]
    cases e.board.get c <;> rfl

/-- Turns that restore every tile restore the board. -/
theorem board_play_turns (h : e.memory = .idle) {turns : List Action}
    (hturns : ∀ a ∈ turns, a.isTurn = true) (hrestore : ∀ t, turns.foldl Tile.turnedBy t = t) :
    (e.play Mind.policy (turns.map some)).board = e.board := by
  apply Grid.ext_get (tally_play Mind.policy e (turns.map some)).size
  intro c _
  rw [get_board_play_turns h hturns]
  simp only [hrestore]
  cases e.board.get c <;> rfl

theorem foldl_turnedBy_kind (turns : List Action) (t : Tile) :
    (turns.foldl Tile.turnedBy t).kind = t.kind := by
  induction turns generalizing t with
  | nil => rfl
  | cons a turns ih => exact (ih _).trans (t.kind_turnedBy a)

/-- Turns leave the players where they are. -/
theorem players_play_turns (h : e.memory = .idle) {turns : List Action}
    (hturns : ∀ a ∈ turns, a.isTurn = true) :
    (e.play Mind.policy (turns.map some)).board.players.map Prod.fst =
      e.board.players.map Prod.fst := by
  apply Grid.map_fst_players_congr (tally_play Mind.policy e (turns.map some)).size
  intro c
  rw [get_board_play_turns h hturns]
  cases e.board.get c <;> simp [Except.map, foldl_turnedBy_kind]

/-! ## Moves of a single player -/

theorem deeds_move {p : Coord} {t : Tile} (h : e.memory = .idle) (hmove : a.isMove = true)
    (hplayer : e.board.players = [(p, t)]) :
    e.deeds Mind.policy (some a) = (Deed.stepTo? e.board p t (a.heading t.facing)).toList := by
  have hwishes : wishes e.board (e.decisions Mind.policy (some a)) =
      (Deed.stepTo? e.board p t (a.heading t.facing)).toList := by
    rw [wishes_idle h, hplayer]
    cases a with
    | moveForward | moveBack =>
      simp only [List.filterMap_cons, List.filterMap_nil, Deed.ofTile?, Action.heading]
      split <;> simp_all
    | turnLeft | turnRight | attack | idle => cases hmove
  rw [deeds, hwishes]
  cases hstep : Deed.stepTo? e.board p t (a.heading t.facing) with
  | none => rfl
  | some d => simp [Deed.grant]

/-- A single player that can move moves. -/
theorem move_spec {p q : Coord} {t target : Tile} (h : e.memory = .idle) (hmove : a.isMove = true)
    (hplayer : e.board.players = [(p, t)]) (hq : p.step (a.heading t.facing) = q)
    (htarget : e.board.get q = .ok target) (hwalk : target.kind.isWalkable = true) :
    (e.cycle Mind.policy (some a)).changes = [⟨q, t⟩, ⟨p, {}⟩] ∧
      Painted e.board [⟨q, t⟩, ⟨p, {}⟩] (e.cycle Mind.policy (some a)).engine.board := by
  subst hq
  have hdeeds : e.deeds Mind.policy (some a) = [.move p (p.step (a.heading t.facing)) t] := by
    rw [deeds_move h hmove hplayer, Deed.stepTo?_eq_some_iff.2 ⟨target, htarget, hwalk, rfl⟩]
    rfl
  have hchanges := cycle_changes Mind.policy e (some a)
  have hpainted := cycle_painted Mind.policy e (some a)
  rw [hdeeds] at hchanges hpainted
  exact ⟨hchanges, hpainted⟩

/-- If a cycle with a single player changes anything, the player can move. -/
theorem exists_target_of_changes {p : Coord} {t : Tile} (h : e.memory = .idle)
    (hmove : a.isMove = true) (hplayer : e.board.players = [(p, t)])
    (hchanges : (e.cycle Mind.policy (some a)).changes ≠ []) :
    ∃ q target, p.step (a.heading t.facing) = q ∧ e.board.get q = .ok target ∧
      target.kind.isWalkable = true := by
  rw [cycle_changes, deeds_move h hmove hplayer] at hchanges
  cases hstep : Deed.stepTo? e.board p t (a.heading t.facing) with
  | none =>
    rw [hstep] at hchanges
    exact absurd rfl hchanges
  | some d =>
    obtain ⟨target, htarget, hwalk, -⟩ := Deed.stepTo?_eq_some_iff.1 hstep
    exact ⟨_, target, rfl, htarget, hwalk⟩

/-- The move the other way takes the player back to the cell that the first move has emptied. -/
theorem move_back_spec {p : Coord} {t : Tile} (h : e.memory = .idle) (hmove : a.isMove = true)
    (hplayer : e.board.players = [(p, t)])
    (hchanges : (e.cycle Mind.policy (some a)).changes ≠ []) :
    let first := e.cycle Mind.policy (some a)
    let second := first.engine.cycle Mind.policy (some a.reverse)
    ∃ q, first.changes = [⟨q, t⟩, ⟨p, {}⟩] ∧ second.changes = [⟨p, t⟩, ⟨q, {}⟩] ∧
      e.board.set q {} = .ok second.engine.board := by
  intro first second
  obtain ⟨q, target, hq, htarget, hwalk⟩ := exists_target_of_changes h hmove hplayer hchanges
  obtain ⟨hfirst, hout⟩ := move_spec h hmove hplayer hq htarget hwalk
  obtain ⟨hstart, hkind⟩ : e.board.get p = .ok t ∧ t.kind = .player := by
    rw [← Grid.mem_players, hplayer]
    exact List.mem_singleton_self _
  have hplayer' : first.engine.board.players = [(q, t)] := by
    have hcount : first.engine.board.count .player = 1 := by
      rw [(tally_of_enacted (cycle_enacted Mind.policy e (some a))).occupants .player rfl,
        ← Grid.length_players, hplayer]
      rfl
    have hentered := hout.written ⟨q, t⟩ List.mem_cons_self
    exact Grid.players_eq_of_mem hcount (Grid.mem_players.2 ⟨hentered, hkind⟩)
  have hp : q.step (a.reverse.heading t.facing) = p := by
    rw [← hq, Action.heading_reverse hmove, Coord.step_step_neg]
  have hvacated := hout.written ⟨p, {}⟩ (List.mem_cons_of_mem _ List.mem_cons_self)
  obtain ⟨hsecond, hback⟩ := move_spec (memory_cycle_idle h (some a)) (Action.isMove_reverse hmove)
    hplayer' hp hvacated rfl
  exact ⟨q, hfirst, hsecond, hout.set_of_return hback hstart (Grid.contains_of_get htarget)⟩

/-- **Players undo what they did.** -/
theorem players_undo (board : Grid Tile) (cycles : Nat) :
    let game : Engine Mind := ⟨board, .ofPolicy .idle, cycles⟩
    let after (actions : List Action) := game.play Mind.policy (actions.map some)
    (∀ a : Action, a.isTurn = true →
      (after [a, a.reverse]).board = board ∧
      (after [a, a, a, a]).board = board ∧
      ∀ turns : List Action, (∀ b ∈ turns, b.isTurn = true) →
        ((after turns).cycle Mind.policy (some a)).changes.map (·.coord) =
          board.players.map Prod.fst) ∧
    (board.count .player = 1 → ∀ a : Action, a.isMove = true →
      let first := game.cycle Mind.policy (some a)
      let second := first.engine.cycle Mind.policy (some a.reverse)
      first.changes ≠ [] →
        ∃ p q t, board.players = [(p, t)] ∧ first.changes = [⟨q, t⟩, ⟨p, ⟨.empty, .right⟩⟩] ∧
          second.changes = [⟨p, t⟩, ⟨q, ⟨.empty, .right⟩⟩] ∧
          board.set q ⟨.empty, .right⟩ = .ok second.engine.board) := by
  intro game after
  have hidle : game.memory = .idle := rfl
  constructor
  · intro a hturn
    refine ⟨?_, ?_, fun turns hturns => ?_⟩
    · exact board_play_turns hidle (by simp [hturn, Action.isTurn_reverse]) fun t =>
        t.turnedBy_reverse a
    · exact board_play_turns hidle (by simp [hturn]) fun t => t.turnedBy_four a
    · rw [changes_turn (memory_play_turns hidle turns) hturn, List.map_map]
      exact players_play_turns hidle hturns
  · intro hcount a hmove first second hchanges
    obtain ⟨p, t, hplayer⟩ := Grid.exists_players_eq hcount
    obtain ⟨q, hfirst, hsecond, hset⟩ := move_back_spec (e := game) hidle hmove hplayer hchanges
    exact ⟨p, q, t, hplayer, hfirst, hsecond, hset⟩

end Engine

/-- A game with a player between a flag and a gate. -/
def flagBehind : Engine Mind :=
  .start { headOn.board with
    cells := #[⟨.flag, .left⟩, ⟨.player, .right⟩, ⟨.gate, .right⟩], size_cells := rfl }
    (.ofPolicy .idle)

/-- The player that backs onto the flag and walks on is where it was, and the flag is gone; if it
turns instead, it turns back. -/
theorem flagBehind_undone :
    flagBehind.board.count .player = 1 ∧ Action.moveBack.isMove = true ∧
      (flagBehind.cycle Mind.policy (some .moveBack)).changes ≠ [] ∧
      flagBehind.board.set ⟨0, 0⟩ ⟨.empty, .right⟩ =
        .ok ((flagBehind.cycle Mind.policy (some .moveBack)).engine.cycle Mind.policy
          (some .moveForward)).engine.board ∧
      Action.turnLeft.isTurn = true ∧
      (flagBehind.play Mind.policy [some .turnLeft, some .turnRight]).board = flagBehind.board := by
  have hcount : flagBehind.board.count .player = 1 := by decide
  have hwhere : (flagBehind.cycle Mind.policy (some .moveBack)).changes.map (·.coord) =
      [⟨0, 0⟩, ⟨1, 0⟩] := by decide
  have hchanges : (flagBehind.cycle Mind.policy (some .moveBack)).changes ≠ [] := by
    intro hnone
    rw [hnone] at hwhere
    cases hwhere
  have hundo := Engine.players_undo flagBehind.board 0
  obtain ⟨p, q, t, -, hfirst, -, hset⟩ := hundo.2 hcount .moveBack rfl hchanges
  have hq : q = ⟨0, 0⟩ := by
    rw [show (flagBehind.cycle Mind.policy (some .moveBack)).changes = [⟨q, t⟩, ⟨p, {}⟩]
      from hfirst] at hwhere
    exact (List.cons.inj hwhere).1
  rw [hq] at hset
  exact ⟨hcount, rfl, hchanges, hset, rfl, (hundo.1 .turnLeft rfl).1⟩

end Gridwalk
