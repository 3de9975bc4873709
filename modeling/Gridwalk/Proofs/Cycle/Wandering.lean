import Gridwalk.Proofs.Cycle.Conservation
import Mathlib

/-!
# Wandering enemies

A seed determines what the enemies of a game do, draw by draw (`Mind.choice`).

**Theorem (`enemies_follow_draws`).** In a game with `E` enemies the `k`-th cycle takes the draws
from `k * E` on: the `j`-th enemy in raster order does what draw `k * E + j` says, and no other
cell draws at all. So whatever the players are told, in every cycle the enemies are given the same
actions.

**One cycle (`drawsFrom_of_memory`).** The cells are asked in raster order, and the mind is one
draw further exactly behind the enemies among them (`decideCells_afterDraws`).

**Games (`memory_play`).** No cycle changes the number of enemies, so each of them is `E` draws
further than the one before.
-/

namespace Gridwalk

namespace RandomStream

/-- The stream behind a number of choices. -/
def after (s : RandomStream) : Nat → RandomStream
  | 0 => s
  | n + 1 => (s.after n).choose.2

end RandomStream

/-! ## Enemies -/

namespace Grid

/-- The enemies of a board in raster order. -/
def enemies (g : Grid Tile) : List Coord :=
  (g.toList.filter fun p => p.2.kind = .enemy).map Prod.fst

theorem length_enemies (g : Grid Tile) : g.enemies.length = g.count .enemy := by
  simp [enemies, count]

theorem mem_enemies_iff {g : Grid Tile} {c : Coord} :
    c ∈ g.enemies ↔ ∃ t, g.get c = .ok t ∧ t.kind = .enemy := by
  simp only [enemies, List.mem_map, List.mem_filter, Prod.exists, mem_toList, decide_eq_true_eq]
  constructor
  · rintro ⟨c', t, ⟨hget, hkind⟩, rfl⟩
    exact ⟨t, hget, hkind⟩
  · rintro ⟨t, hget, hkind⟩
    exact ⟨c, t, ⟨hget, hkind⟩, rfl⟩

end Grid

/-- An enemy on some board. -/
structure Sighting where
  board : Grid Tile
  cell : Coord
  isEnemy : cell ∈ board.enemies

namespace Mind

/-- What the draws of a seed say, counted from zero. -/
def choice (seed : UInt64) (n : Nat) : Action :=
  wanderChoice ((RandomStream.ofSeed seed).after n).choose.1

/-- The mind of a seed behind a number of draws. -/
def afterDraws (seed : UInt64) (n : Nat) : Mind := wander ((RandomStream.ofSeed seed).after n)

/-- What a mind answers when it is asked for enemies and nothing else. -/
def answers (m : Mind) : List Sighting → List (Except OffGrid Action)
  | [] => []
  | s :: rest => (m.decide s.cell s.board).1 :: answers (m.decide s.cell s.board).2 rest

variable {cell : Coord} {board : Grid Tile}

/-- An enemy takes a draw. -/
theorem decide_enemy (h : cell ∈ board.enemies) (seed : UInt64) (n : Nat) :
    (afterDraws seed n).decide cell board = (.ok (choice seed n), afterDraws seed (n + 1)) := by
  obtain ⟨t, hget, hkind⟩ := Grid.mem_enemies_iff.1 h
  simp only [decide, afterDraws, hget, hkind, if_true]
  rfl

/-- No other tile takes one. -/
theorem decide_other {t : Tile} (hget : board.get cell = .ok t) (hkind : t.kind ≠ .enemy)
    (seed : UInt64) (n : Nat) :
    (afterDraws seed n).decide cell board = (.ok .idle, afterDraws seed n) := by
  simp only [decide, afterDraws, hget, hkind, if_false]

theorem answers_afterDraws (seed : UInt64) (n : Nat) (asked : List Sighting) :
    (afterDraws seed n).answers asked =
      (List.range asked.length).map fun i => .ok (choice seed (n + i)) := by
  induction asked generalizing n with
  | nil => rfl
  | cons s rest ih =>
    rw [answers, decide_enemy s.isEnemy, ih, List.length_cons, List.range_succ_eq_map,
      List.map_cons, List.map_map]
    refine List.cons_eq_cons.2 ⟨rfl, List.map_congr_left fun i _ => ?_⟩
    rw [Function.comp_apply, Nat.add_assoc, Nat.add_comm 1 i]

end Mind

/-! ## One cycle -/

theorem decideCells_cons {σ : Type} {policy : Policy σ} {player : Action} {board : Grid Tile}
    {memory memory' : σ} {cell : Coord} {tile : Tile} {action : Except OffGrid Action}
    (h : (if tile.kind = .player then (.ok player, memory) else policy.decide memory cell board) =
      (action, memory')) (cells : List (Coord × Tile)) :
    decideCells policy player board memory ((cell, tile) :: cells) =
      (⟨cell, action⟩ :: (decideCells policy player board memory' cells).1,
        (decideCells policy player board memory' cells).2) := by
  simp only [decideCells, h]

/-- Asked for some cells of a board, a mind takes one draw for each enemy among them. -/
theorem decideCells_afterDraws {board : Grid Tile} {cells : List (Coord × Tile)}
    (hcells : ∀ p ∈ cells, board.get p.1 = .ok p.2) (player : Action) (seed : UInt64) (n : Nat) :
    let asked := decideCells Mind.policy player board (Mind.afterDraws seed n) cells
    let enemies := (cells.filter fun p => p.2.kind = .enemy).map Prod.fst
    asked.1.filter (fun d => d.cell ∈ board.enemies) =
        enemies.mapIdx (fun j c => ⟨c, .ok (Mind.choice seed (n + j))⟩) ∧
      asked.2 = Mind.afterDraws seed (n + enemies.length) := by
  induction cells generalizing n with
  | nil => exact ⟨rfl, rfl⟩
  | cons p cells ih =>
    obtain ⟨cell, tile⟩ := p
    obtain ⟨hget, hrest⟩ := List.forall_mem_cons.1 hcells
    dsimp only at hget ih ⊢
    have hmem : cell ∈ board.enemies ↔ tile.kind = .enemy := by simp [Grid.mem_enemies_iff, hget]
    by_cases henemy : tile.kind = .enemy
    · have hplayer : tile.kind ≠ .player := by simp [henemy]
      obtain ⟨hdecisions, hmemory⟩ := ih hrest (n + 1)
      rw [decideCells_cons ((if_neg hplayer).trans (Mind.decide_enemy (hmem.2 henemy) seed n)),
        List.filter_cons_of_pos (by simpa using hmem.2 henemy),
        List.filter_cons_of_pos (by simpa using henemy), List.map_cons, List.mapIdx_cons,
        List.length_cons, hdecisions, hmemory]
      simp only [Nat.add_assoc, Nat.add_comm 1, Nat.add_zero, and_self]
    · -- A player does what it is told, and any other tile is idle.
      obtain ⟨action, haction⟩ : ∃ action, (if tile.kind = .player then
          (.ok player, Mind.afterDraws seed n)
          else Mind.policy.decide (Mind.afterDraws seed n) cell board) =
            (action, Mind.afterDraws seed n) := by
        by_cases hplayer : tile.kind = .player
        · exact ⟨.ok player, if_pos hplayer⟩
        · exact ⟨.ok .idle, (if_neg hplayer).trans (Mind.decide_other hget henemy seed n)⟩
      rw [decideCells_cons haction,
        List.filter_cons_of_neg (by simpa using fun h => henemy (hmem.1 h)),
        List.filter_cons_of_neg (by simpa using henemy)]
      exact ih hrest n

namespace Engine

/-- The decisions for the enemies in the next cycle, in raster order. -/
def enemyDecisions {σ : Type} (policy : Policy σ) (e : Engine σ) (player : Option Action) :
    List Decision :=
  (e.decisions policy player).filter fun d => d.cell ∈ e.board.enemies

/-- In its next cycle a game takes draws of a seed from the `n`-th one on: one for each enemy in
raster order, and none for any other cell. -/
structure DrawsFrom (seed : UInt64) (n : Nat) (e : Engine Mind) (player : Option Action) :
    Prop where
  decisions : e.enemyDecisions Mind.policy player =
    e.board.enemies.mapIdx fun j c => ⟨c, .ok (Mind.choice seed (n + j))⟩
  /-- The mind when some cells have been asked. -/
  memory : ∀ count, let asked := e.board.toList.take count
    (decideCells Mind.policy (player.getD .idle) e.board e.memory asked).2 =
      Mind.afterDraws seed (n + (asked.filter fun p => p.2.kind = .enemy).length)

variable {seed : UInt64} {n : Nat} {e : Engine Mind}

theorem drawsFrom_of_memory (h : e.memory = Mind.afterDraws seed n) (player : Option Action) :
    DrawsFrom seed n e player := by
  constructor
  case decisions =>
    have hlist : ∀ p ∈ e.board.toList, e.board.get p.1 = .ok p.2 := fun _ hp => Grid.mem_toList.1 hp
    rw [enemyDecisions, decisions, h]
    exact (decideCells_afterDraws hlist _ seed n).1
  case memory =>
    intro count
    have htake : ∀ p ∈ e.board.toList.take count, e.board.get p.1 = .ok p.2 := fun _ hp =>
      Grid.mem_toList.1 (List.mem_of_mem_take hp)
    have hmemory := (decideCells_afterDraws htake (player.getD .idle) seed n).2
    rw [List.length_map] at hmemory
    rw [h]
    exact hmemory

/-- A cycle takes as many draws as there are enemies. -/
theorem memory_cycle (h : e.memory = Mind.afterDraws seed n) (player : Option Action) :
    (e.cycle Mind.policy player).engine.memory =
      Mind.afterDraws seed (n + e.board.count .enemy) := by
  have hall := (drawsFrom_of_memory h player).memory e.board.toList.length
  rw [List.take_length] at hall
  exact hall

/-! ## Games -/

theorem memory_play (h : e.memory = Mind.afterDraws seed n) (players : List (Option Action)) :
    (e.play Mind.policy players).memory =
      Mind.afterDraws seed (n + players.length * e.board.count .enemy) := by
  induction players generalizing e n with
  | nil => simpa [play] using h
  | cons player players ih =>
    have hcount : (e.cycle Mind.policy player).engine.board.count .enemy = e.board.count .enemy :=
      (tally_of_enacted (cycle_enacted Mind.policy e player)).occupants .enemy rfl
    have hplay := ih (memory_cycle h player)
    rw [hcount] at hplay
    rw [List.length_cons, Nat.succ_mul, Nat.add_comm (players.length * _), ← Nat.add_assoc]
    exact hplay

theorem map_action_enemyDecisions {player : Option Action} (h : DrawsFrom seed n e player) :
    (e.enemyDecisions Mind.policy player).map (·.action) =
      (List.range (e.board.count .enemy)).map fun j => .ok (Mind.choice seed (n + j)) := by
  rw [h.decisions, ← e.board.length_enemies]
  apply List.ext_getElem
  · simp
  · intro j _ _
    simp

/-- **Enemies follow the draws of their seed.** Asked for enemies only, a fresh mind answers with
the draws from the first one on. In a game with such a mind, the number of enemies never changes,
and after `k` cycles the next one takes its draws from the place that `k` draws for each enemy lead
to. So in two games from one board the enemies are given the same actions in every cycle, whatever
the players are told. -/
theorem enemies_follow_draws (seed : UInt64) (board : Grid Tile) (k : Nat)
    (players others : Vector (Option Action) k) (player other : Option Action) :
    let mind := Mind.ofPolicy (.wander seed)
    let game (told : Vector (Option Action) k) := (start board mind).play Mind.policy told.toList
    let enemies := board.count .enemy
    (∀ asked, mind.answers asked =
        (List.range asked.length).map fun n => .ok (Mind.choice seed n)) ∧
      (game players).board.enemies.length = enemies ∧
      DrawsFrom seed (k * enemies) (game players) player ∧
      ((game players).enemyDecisions Mind.policy player).map (·.action) =
        ((game others).enemyDecisions Mind.policy other).map (·.action) := by
  intro mind game enemies
  have hcount (told : Vector (Option Action) k) : (game told).board.count .enemy = enemies :=
    (tally_play Mind.policy (start board mind) told.toList).occupants .enemy rfl
  have hdraws (told : Vector (Option Action) k) (next : Option Action) :
      DrawsFrom seed (k * enemies) (game told) next := by
    have hmemory : (game told).memory = _ := memory_play (n := 0) rfl told.toList
    rw [Nat.zero_add, Vector.length_toList] at hmemory
    exact drawsFrom_of_memory hmemory next
  refine ⟨fun asked => ?_, ?_, hdraws players player, ?_⟩
  · have hanswers := Mind.answers_afterDraws seed 0 asked
    simp only [Nat.zero_add] at hanswers
    exact hanswers
  · rw [Grid.length_enemies, hcount]
  · rw [map_action_enemyDecisions (hdraws players player),
      map_action_enemyDecisions (hdraws others other), hcount, hcount]

end Engine

end Gridwalk
