import Gridwalk.Proofs.Cycle.Conservation
import Gridwalk.Proofs.Cycle.Simultaneous
import Mathlib

/-!
# The scenery of a game

All tiles but players and enemies are *scenery*: fixtures (blocked cells and gates), items (flags
and keys) and empty cells. Under the policies that come with the game no scenery ever acts.

**Theorem (`scenery_stays`).** Between any two points of a game

- *fixtures* stay: the same cells hold them, with the same tiles;
- every *item* that is left was there before, with the same tile, and it takes a player or an
  enemy that walks on an item to make it disappear;
- an *empty cell* holds the tile that it held before, or faces right.

The step is `Enacted.kept_or_replaces`: where a cycle changes the tile of a cell, the old one was no
fixture, and the new one acts or is the empty cell that a mover leaves behind. So one cycle keeps
the scenery, and since `Weathered` is transitive, a run does (`weathered_play`).
-/

namespace Gridwalk

namespace TileKind

/-- Tiles that neither act nor can be walked on. -/
def isFixture : TileKind → Bool
  | blocked | gate => true
  | empty | player | flag | key | enemy => false

/-- Tiles that are gone once they are walked on. -/
def isItem : TileKind → Bool
  | flag | key => true
  | blocked | empty | player | gate | enemy => false

variable {k : TileKind}

theorem isFixture_of_isActor (h : k.isActor = true) : k.isFixture = false := by
  cases k <;> first | rfl | cases h

theorem isFixture_of_isWalkable (h : k.isWalkable = true) : k.isFixture = false := by
  cases k <;> first | rfl | cases h

theorem isItem_of_isActor (h : k.isActor = true) : k.isItem = false := by
  cases k <;> first | rfl | cases h

end TileKind

/-- A board may have become another one without any scenery having moved. -/
structure Weathered (before after : Grid Tile) : Prop where
  size : Grid.SameSize after before
  fixtures : ∀ c t, t.kind.isFixture = true → (after.get c = .ok t ↔ before.get c = .ok t)
  items : ∀ c t, t.kind.isItem = true → after.get c = .ok t → before.get c = .ok t
  empties : ∀ c t, t.kind = .empty → after.get c = .ok t →
    before.get c = .ok t ∨ t = ⟨.empty, .right⟩

namespace Weathered

theorem refl (g : Grid Tile) : Weathered g g :=
  ⟨.refl g, fun _ _ _ => .rfl, fun _ _ _ h => h, fun _ _ _ h => .inl h⟩

theorem trans {f g k : Grid Tile} (h : Weathered f g) (h' : Weathered g k) : Weathered f k where
  size := h'.size.trans h.size
  fixtures := fun c t hk => (h'.fixtures c t hk).trans (h.fixtures c t hk)
  items := fun c t hk ht => h.items c t hk (h'.items c t hk ht)
  empties := by
    intro c t hk ht
    rcases h'.empties c t hk ht with hmid | hright
    · exact h.empties c t hk hmid
    · exact .inr hright

end Weathered

/-- A player or an enemy has come to the cell from next to it. -/
def Trodden (before after : Grid Tile) (c : Coord) : Prop :=
  ∃ p d t, c = p.step d ∧ before.get p = .ok t ∧ t.kind.isActor = true ∧ after.get c = .ok t

/-! ## One cycle -/

/-- What may come to stand in the place of a tile when only players and enemies act. -/
structure Replaces (new old : Tile) : Prop where
  old_not_fixture : old.kind.isFixture = false
  new_not_fixture : new.kind.isFixture = false
  new_not_item : new.kind.isItem = false
  new_empty : new.kind = .empty → new = ⟨.empty, .right⟩

theorem Replaces.of_isActor {new old : Tile} (hold : old.kind.isFixture = false)
    (hnew : new.kind.isActor = true) : Replaces new old where
  old_not_fixture := hold
  new_not_fixture := TileKind.isFixture_of_isActor hnew
  new_not_item := TileKind.isItem_of_isActor hnew
  new_empty := by
    intro hempty
    rw [hempty] at hnew
    cases hnew

namespace Enacted

variable {before after : Grid Tile} {deeds : List Deed} (h : Enacted before deeds after)
  (hactors : ∀ d ∈ deeds, ∀ t, before.get d.cell = .ok t → t.kind.isActor = true)
include h hactors

/-- A cell keeps its tile, or another one replaces it. -/
theorem kept_or_replaces (c : Coord) :
    after.get c = before.get c ∨
      ∃ old new, before.get c = .ok old ∧ after.get c = .ok new ∧ Replaces new old := by
  cases h.fate c with
  | entered p t target hd hsource hbefore hwalk hafter =>
    have htarget := TileKind.isFixture_of_isWalkable hwalk
    exact .inr ⟨target, t, hbefore, hafter, .of_isActor htarget (hactors _ hd t hsource)⟩
  | vacated q t hd hbefore hafter =>
    have ht := TileKind.isFixture_of_isActor (hactors _ hd t hbefore)
    exact .inr ⟨t, {}, hbefore, hafter, ht, rfl, rfl, fun _ => rfl⟩
  | turned t facing hd hbefore hafter =>
    have hactor := hactors _ hd t hbefore
    have ht := TileKind.isFixture_of_isActor hactor
    exact .inr ⟨t, { t with facing }, hbefore, hafter, .of_isActor ht hactor⟩
  | kept _ hafter => exact .inl hafter

theorem weathered : Weathered before after := by
  have hcell := h.kept_or_replaces hactors
  constructor
  case size => exact h.painted.size
  case fixtures =>
    intro c t hk
    rcases hcell c with hkept | ⟨old, new, hold, hnew, hreplaces⟩
    · rw [hkept]
    · -- Neither the old tile nor the new one is a fixture.
      have hne_new : new ≠ t := by
        rintro rfl
        exact absurd hk (by simp [hreplaces.new_not_fixture])
      have hne_old : old ≠ t := by
        rintro rfl
        exact absurd hk (by simp [hreplaces.old_not_fixture])
      simp [hold, hnew, hne_new, hne_old]
  case items =>
    intro c t hk ht
    rcases hcell c with hkept | ⟨old, new, -, hnew, hreplaces⟩
    · rwa [hkept] at ht
    · rw [hnew] at ht
      cases ht
      exact absurd hk (by simp [hreplaces.new_not_item])
  case empties =>
    intro c t hk ht
    rcases hcell c with hkept | ⟨old, new, -, hnew, hreplaces⟩
    · rw [hkept] at ht
      exact .inl ht
    · rw [hnew] at ht
      cases ht
      exact .inr (hreplaces.new_empty hk)

/-- An item is kept, or it is walked on. -/
theorem kept_or_trodden {c : Coord} {t : Tile} (hk : t.kind.isItem = true)
    (ht : before.get c = .ok t) : after.get c = .ok t ∨ Trodden before after c := by
  -- A cell that is vacated or turned holds a tile that acts, which is no item.
  have hitem : ∀ d ∈ deeds, d.cell = c → False := by
    rintro d hd rfl
    rw [TileKind.isItem_of_isActor (hactors d hd t ht)] at hk
    cases hk
  cases h.fate c with
  | entered p actor target hd hsource _ _ hafter =>
    have hactor := hactors _ hd actor hsource
    cases h.lawful _ hd with
    | move dir _ hdest _ _ => exact .inr ⟨p, dir, actor, hdest, hsource, hactor, hafter⟩
  | vacated q actor hd _ _ => exact (hitem _ hd rfl).elim
  | turned actor facing hd _ _ => exact (hitem _ hd rfl).elim
  | kept _ hafter => exact .inl (hafter.trans ht)

end Enacted

/-! ## Games -/

namespace Engine

variable {σ : Type} {policy : Policy σ}

theorem isActor_of_mem_deeds (h : policy.ActorsOnly) (e : Engine σ) (player : Option Action) :
    ∀ d ∈ e.deeds policy player, ∀ t, e.board.get d.cell = .ok t → t.kind.isActor = true :=
  fun _ hd _ ht => isActor_of_mem_wishes (h.engine e player) (Deed.mem_of_mem_grant hd) ht

theorem weathered_play (h : policy.ActorsOnly) (e : Engine σ) (players : List (Option Action)) :
    Weathered e.board (e.play policy players).board := by
  induction players generalizing e with
  | nil => exact .refl e.board
  | cons player players ih =>
    have hstep := (cycle_enacted policy e player).weathered (isActor_of_mem_deeds h e player)
    exact hstep.trans (ih _)

/-- **Scenery stays.** Under a policy that comes with the game, from any board on and whatever the
players are told, no scenery moves between any two points of a game, and only items that are
walked on disappear. -/
theorem scenery_stays (board : Grid Tile) (enemies : EnemyPolicy)
    (players later : List (Option Action)) (player : Option Action) :
    let game := (start board (Mind.ofPolicy enemies)).play Mind.policy
    let next := ((game players).cycle Mind.policy player).engine.board
    Weathered (game players).board (game (players ++ later)).board ∧
      ∀ c t, t.kind.isItem = true → (game players).board.get c = .ok t →
        next.get c = .ok t ∨ Trodden (game players).board next c := by
  intro game next
  constructor
  · have hsplit : game (players ++ later) = (game players).play Mind.policy later :=
      List.foldl_append
    rw [hsplit]
    exact weathered_play Mind.actorsOnly (game players) later
  · intro c t hk ht
    exact (cycle_enacted Mind.policy (game players) player).kept_or_trodden
      (isActor_of_mem_deeds Mind.actorsOnly (game players) player) hk ht

end Engine

end Gridwalk
