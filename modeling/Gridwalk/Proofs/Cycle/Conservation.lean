import Gridwalk.Proofs.Cycle.Ledger
import Mathlib

/-!
# What a cycle keeps

The tiles that cannot be walked on (blocked cells, players, gates and enemies) are the
*occupants* of a board. No policy, whatever it decides, makes one appear or disappear.

- **Relocation (`relocated`).** The occupants before and after a cycle correspond one to one. Each
  keeps its kind, and stays where it is or goes one step with its facing unchanged.
- **Tally (`tally_of_enacted`).** The number of occupants of each kind stays the same, there are
  never more flags or keys, and never fewer empty cells.

Both hold for any deeds that the board allows and that do not clash (`Enacted`). A mover enters a
cell that can be walked on and that no other deed writes, so all that a move ever destroys is a
flag, a key or an empty cell. `play_conserves` puts cycles together to runs.
-/

namespace Gridwalk

/-! ## Occupants -/

/-- The cell holds a tile that cannot be walked on. -/
def Grid.Occupied (g : Grid Tile) (c : Coord) : Prop :=
  ∃ t, g.get c = .ok t ∧ t.kind.isWalkable = false

/-- The tile of a cell before is the tile of a cell after: of the same kind, and either still
there or one step away, on the board, with the same facing. -/
def Carried (before after : Grid Tile) (c c' : Coord) : Prop :=
  ∃ t t', before.get c = .ok t ∧ after.get c' = .ok t' ∧ t'.kind = t.kind ∧
    (c' = c ∨ (∃ d, c' = c.step d) ∧ t'.facing = t.facing)

/-- The occupants of two boards correspond one to one, each one carried at most a step. -/
def Relocated (before after : Grid Tile) : Prop :=
  ∃ place : {c // before.Occupied c} ≃ {c // after.Occupied c},
    ∀ c, Carried before after c.val (place c).val

theorem Carried.occupied {before after : Grid Tile} {c c' : Coord}
    (h : Carried before after c c') (hc : before.Occupied c) : after.Occupied c' := by
  obtain ⟨t, t', ht, ht', hkind, -⟩ := h
  obtain ⟨u, hu, hwalk⟩ := hc
  rw [ht] at hu
  cases hu
  exact ⟨t', ht', hkind ▸ hwalk⟩

/-- Where the tile of a cell goes. -/
def destination (deeds : List Deed) (c : Coord) : Coord :=
  (deeds.findSome? fun
    | .move p q _ => if p = c then some q else none
    | .turn _ _ => none).getD c

/-- A cell is left by a move, or its tile stays. -/
theorem destination_cases (deeds : List Deed) (c : Coord) :
    (∃ t, .move c (destination deeds c) t ∈ deeds) ∨
      destination deeds c = c ∧ ∀ q t, .move c q t ∉ deeds := by
  unfold destination
  cases hfind : deeds.findSome? _ with
  | some q =>
    left
    obtain ⟨d, hd, hq⟩ := List.exists_of_findSome?_eq_some hfind
    cases d with
    | move p q' t =>
      simp only [Option.ite_none_right_eq_some, Option.some.injEq] at hq
      obtain ⟨rfl, rfl⟩ := hq
      exact ⟨t, hd⟩
    | turn p t => cases hq
  | none =>
    right
    refine ⟨rfl, fun q t hd => ?_⟩
    have := List.findSome?_eq_none_iff.1 hfind _ hd
    simp at this

theorem destination_of_untouched {deeds : List Deed} {c : Coord}
    (hc : c ∉ deeds.flatMap Deed.cells) : destination deeds c = c := by
  rcases destination_cases deeds c with ⟨t, hd⟩ | ⟨heq, -⟩
  · exact absurd (List.mem_flatMap.2 ⟨_, hd, by simp⟩) hc
  · exact heq

namespace Enacted

variable {before after : Grid Tile} {deeds : List Deed} (h : Enacted before deeds after)
include h

theorem destination_of_move {p q : Coord} {t : Tile} (hd : .move p q t ∈ deeds) :
    destination deeds p = q := by
  rcases destination_cases deeds p with ⟨t', hd'⟩ | ⟨-, hnone⟩
  · have heq := h.eq_of_clash hd hd' ⟨p, by simp, by simp⟩
    simp only [Deed.move.injEq] at heq
    exact heq.2.1.symm
  · exact absurd hd (hnone q t)

theorem destination_of_turn {c : Coord} {t : Tile} (hd : .turn c t ∈ deeds) :
    destination deeds c = c := by
  rcases destination_cases deeds c with ⟨t', hd'⟩ | ⟨heq, -⟩
  · have heq := h.eq_of_clash hd hd' ⟨c, by simp, by simp⟩
    cases heq
  · exact heq

/-- What a move enters was no occupant. -/
theorem not_occupied_of_move {p q : Coord} {t : Tile} (hd : .move p q t ∈ deeds) :
    ¬ before.Occupied q := by
  rintro ⟨u, hu, hwalk⟩
  cases h.lawful _ hd with
  | move dir _ _ hq hwalk' =>
    rw [hu] at hq
    cases hq
    rw [hwalk] at hwalk'
    cases hwalk'

/-- Occupants are carried to their destinations. -/
theorem carried_destination {c : Coord} (hc : before.Occupied c) :
    Carried before after c (destination deeds c) := by
  cases h.fate c with
  | entered p t target hd _ _ _ _ => exact absurd hc (h.not_occupied_of_move hd)
  | vacated q t hd hget _ =>
    rw [h.destination_of_move hd]
    have hafter := h.written hd (w := ⟨q, t⟩) List.mem_cons_self
    cases h.lawful _ hd with
    | move dir _ hq _ _ => exact ⟨t, t, hget, hafter, rfl, .inr ⟨⟨dir, hq⟩, rfl⟩⟩
  | turned t facing hd hget hafter =>
    rw [h.destination_of_turn hd]
    exact ⟨t, _, hget, hafter, rfl, .inl rfl⟩
  | kept hu hafter =>
    rw [destination_of_untouched hu]
    obtain ⟨t, ht, -⟩ := hc
    exact ⟨t, t, ht, hafter.trans ht, rfl, .inl rfl⟩

/-- No two occupants have the same destination. -/
theorem destination_injective {c c' : Coord} (hc : before.Occupied c) (hc' : before.Occupied c')
    (heq : destination deeds c = destination deeds c') : c = c' := by
  -- Two moves do not clash, and a move cannot enter an occupant that stays.
  rcases destination_cases deeds c with ⟨t, hd⟩ | ⟨hstay, -⟩ <;>
    rcases destination_cases deeds c' with ⟨t', hd'⟩ | ⟨hstay', -⟩
  · rw [heq] at hd
    have := h.eq_of_clash hd hd' ⟨destination deeds c', by simp, by simp⟩
    simp only [Deed.move.injEq] at this
    exact this.1
  · rw [heq, hstay'] at hd
    exact absurd hc' (h.not_occupied_of_move hd)
  · rw [← heq, hstay] at hd'
    exact absurd hc (h.not_occupied_of_move hd')
  · rw [← hstay, heq, hstay']

/-- Every occupant after the deeds is one from before. -/
theorem exists_destination {c' : Coord} (hc' : after.Occupied c') :
    ∃ c, before.Occupied c ∧ destination deeds c = c' := by
  obtain ⟨t', ht', hwalk⟩ := hc'
  cases h.fate c' with
  | entered p t target hd hsource _ _ hafter =>
    rw [ht'] at hafter
    cases hafter
    exact ⟨p, ⟨t', hsource, hwalk⟩, h.destination_of_move hd⟩
  | vacated q t hd _ hafter =>
    rw [ht'] at hafter
    cases hafter
    cases hwalk
  | turned t facing hd hget hafter =>
    rw [ht'] at hafter
    cases hafter
    exact ⟨c', ⟨t, hget, hwalk⟩, h.destination_of_turn hd⟩
  | kept hu hafter => exact ⟨c', ⟨t', hafter ▸ ht', hwalk⟩, destination_of_untouched hu⟩

theorem relocated : Relocated before after := by
  let move (c : {c // before.Occupied c}) : {c // after.Occupied c} :=
    ⟨destination deeds c.val, (h.carried_destination c.property).occupied c.property⟩
  have hbij : Function.Bijective move := by
    constructor
    · intro c c' heq
      exact Subtype.ext
        (h.destination_injective c.property c'.property (congrArg Subtype.val heq))
    · rintro ⟨c', hc'⟩
      obtain ⟨c, hc, hdest⟩ := h.exists_destination hc'
      exact ⟨⟨c, hc⟩, Subtype.ext hdest⟩
  exact ⟨Equiv.ofBijective move hbij, fun c => h.carried_destination c.property⟩

end Enacted

/-! ## Counting -/

/-- The kinds that a board holds, compared with another one: as many occupants of each kind, no
more flags and keys, and no fewer empty cells. -/
structure Tally (before after : Grid Tile) : Prop where
  size : Grid.SameSize after before
  occupants : ∀ k : TileKind, k.isWalkable = false → after.count k = before.count k
  flags : after.count .flag ≤ before.count .flag
  keys : after.count .key ≤ before.count .key
  empties : before.count .empty ≤ after.count .empty

namespace Tally

theorem refl (g : Grid Tile) : Tally g g :=
  ⟨.refl g, fun _ _ => rfl, Nat.le_refl _, Nat.le_refl _, Nat.le_refl _⟩

theorem trans {f g k : Grid Tile} (h : Tally f g) (h' : Tally g k) : Tally f k where
  size := h'.size.trans h.size
  occupants := fun kind hk => (h'.occupants kind hk).trans (h.occupants kind hk)
  flags := h'.flags.trans h.flags
  keys := h'.keys.trans h.keys
  empties := h.empties.trans h'.empties

/-- Replacing a tile that can be walked on by an empty one. -/
theorem of_count {before after : Grid Tile} {lost : TileKind}
    (hsize : Grid.SameSize after before) (hlost : lost.isWalkable = true)
    (hcount : ∀ k, after.count k + (if lost = k then 1 else 0) =
      before.count k + (if TileKind.empty = k then 1 else 0)) : Tally before after where
  size := hsize
  occupants := by
    intro k hk
    have h := hcount k
    rwa [if_neg (by rintro rfl; simp_all), if_neg (by rintro rfl; cases hk)] at h
  flags := by
    have h := hcount .flag
    simp only [reduceCtorEq, if_false] at h
    omega
  keys := by
    have h := hcount .key
    simp only [reduceCtorEq, if_false] at h
    omega
  empties := by
    have h := hcount .empty
    rw [if_pos rfl] at h
    split_ifs at h <;> omega

end Tally

/-- A move replaces what it enters by an empty cell, as far as numbers go. -/
theorem tally_of_deed {before after : Grid Tile} {d : Deed} (hlaw : d.Lawful before)
    (hp : Painted before d.writes after) : Tally before after := by
  cases hlaw with
  | @move p q t target dir hsource hdest htarget hwalk =>
    obtain ⟨mid, hmid, hrest⟩ := Painted.exists_set hp
    obtain ⟨last, hlast, hend⟩ := Painted.exists_set hrest
    rw [← hend.eq_of_nil] at hp ⊢
    have hne : p ≠ q := by
      rw [hdest]
      exact (Coord.step_ne p dir).symm
    have hsource' : mid.get p = .ok t := by
      rw [Grid.get_of_set hmid, if_neg hne]
      exact hsource
    refine Tally.of_count hp.size hwalk fun k => ?_
    have hentered : mid.count k + (if target.kind = k then 1 else 0) =
        before.count k + (if t.kind = k then 1 else 0) := Grid.count_of_set hmid htarget k
    have hvacated : last.count k + (if t.kind = k then 1 else 0) =
        mid.count k + (if TileKind.empty = k then 1 else 0) := Grid.count_of_set hlast hsource' k
    omega
  | @turn p t facing hsource =>
    obtain ⟨last, hlast, hend⟩ := Painted.exists_set hp
    rw [← hend.eq_of_nil] at hp ⊢
    have hcount : ∀ k, last.count k = before.count k := fun k =>
      Nat.add_right_cancel (Grid.count_of_set hlast hsource k)
    exact ⟨hp.size, fun k _ => hcount k, (hcount _).le, (hcount _).le, (hcount _).ge⟩

theorem tally_of_enacted {before after : Grid Tile} {deeds : List Deed}
    (h : Enacted before deeds after) : Tally before after := by
  induction deeds generalizing before with
  | nil =>
    rw [h.painted.eq_of_nil]
    exact .refl after
  | cons d ds ih =>
    obtain ⟨mid, hfirst, hrest⟩ := h.exists_cons
    exact (tally_of_deed (h.lawful d List.mem_cons_self) hfirst).trans (ih hrest)

/-! ## Runs -/

namespace Engine

variable {σ : Type} (policy : Policy σ)

/-- The engine after a cycle for each of some player actions. -/
def play (e : Engine σ) (players : List (Option Action)) : Engine σ :=
  players.foldl (fun e player => (e.cycle policy player).engine) e

theorem tally_play (e : Engine σ) (players : List (Option Action)) :
    Tally e.board (e.play policy players).board := by
  induction players generalizing e with
  | nil => exact .refl e.board
  | cons player players ih =>
    exact (tally_of_enacted (cycle_enacted policy e player)).trans (ih _)

/-- **Conservation.** At every point of a run the next cycle carries each occupant at most one
step, and the tally holds between any two points. -/
theorem play_conserves (e : Engine σ) (players later : List (Option Action))
    (player : Option Action) :
    Relocated (e.play policy players).board
        ((e.play policy players).cycle policy player).engine.board ∧
      Tally (e.play policy players).board (e.play policy (players ++ later)).board := by
  refine ⟨(cycle_enacted policy (e.play policy players) player).relocated, ?_⟩
  rw [play, play, List.foldl_append]
  exact tally_play policy (e.play policy players) later

end Engine

end Gridwalk
