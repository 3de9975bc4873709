import Gridwalk.Play.FlagWatch
import Gridwalk.Proofs.Cycle.Conservation
import Mathlib

/-!
# Arrivals at flags

A watch on the flags of a level looks at one board after another and reports arrivals. The flags are
those of the level, so they count even when they have been walked on and are gone.

**Theorem (`arrivals`).** A watch reports an arrival at a board exactly if a player stands on a flag
of the level there and none did at the board before, where the board that the level starts from goes
before the first one. So between two reports there is always a board on which no flag is reached.

**One look (`Remembers.update`).** All that a watch remembers of the boards so far is whether a flag
was reached on the last one.
-/

namespace Gridwalk

/-- A player stands on a cell that holds a flag at the start. -/
def Reached (start board : Grid Tile) : Prop :=
  ∃ c, (∃ t, start.get c = .ok t ∧ t.kind = .flag) ∧ ∃ t, board.get c = .ok t ∧ t.kind = .player

theorem not_reached_start (start : Grid Tile) : ¬ Reached start start := by
  rintro ⟨c, ⟨t, ht, hflag⟩, t', ht', hplayer⟩
  rw [ht] at ht'
  cases ht'
  rw [hflag] at hplayer
  cases hplayer

namespace FlagWatch

variable {w : FlagWatch} {start last : Grid Tile}

/-- The answers of a watch that looks at boards one after another. -/
def reports (w : FlagWatch) : List (Grid Tile) → List Bool
  | [] => []
  | g :: gs => (w.update g).1 :: reports (w.update g).2 gs

theorem length_reports (w : FlagWatch) (boards : List (Grid Tile)) :
    (w.reports boards).length = boards.length := by
  induction boards generalizing w with
  | nil => rfl
  | cons g gs ih => exact congrArg (· + 1) (ih _)

theorem holdsPlayer_iff {g : Grid Tile} {c : Coord} :
    holdsPlayer g c = true ↔ ∃ t, g.get c = .ok t ∧ t.kind = .player := by
  unfold holdsPlayer
  cases g.get c <;> simp

/-- The watch knows the flags at the start, and whether one is reached on the last board. -/
structure Remembers (start last : Grid Tile) (w : FlagWatch) : Prop where
  flags : ∀ c, c ∈ w.flags ↔ ∃ t, start.get c = .ok t ∧ t.kind = .flag
  onFlag : w.onFlag = true ↔ Reached start last

theorem remembers_ofLevel {l : Level} (h : l.initialGrid = some start) :
    Remembers start start (ofLevel l) where
  flags := by
    intro c
    simp [ofLevel, h, Grid.mem_toList]
  onFlag := by
    simp [ofLevel, not_reached_start]

/-- A flag is reached on a board if one of the cells that are watched holds a player. -/
theorem Remembers.any_iff (h : Remembers start last w) (g : Grid Tile) :
    w.flags.any (holdsPlayer g) = true ↔ Reached start g := by
  simp only [List.any_eq_true, h.flags, holdsPlayer_iff, Reached]

/-- **One look.** -/
theorem Remembers.update (h : Remembers start last w) (g : Grid Tile) :
    ((w.update g).1 = true ↔ Reached start g ∧ ¬ Reached start last) ∧
      Remembers start g (w.update g).2 := by
  constructor
  · simp only [FlagWatch.update, Bool.and_eq_true, Bool.not_eq_true', h.any_iff g, ← h.onFlag,
      Bool.not_eq_true]
  · exact ⟨h.flags, h.any_iff g⟩

/-- **All looks.** Each report compares a board with the one before. -/
theorem Remembers.getElem?_reports (h : Remembers start last w) {boards : List (Grid Tile)}
    {n : Nat} {g before : Grid Tile} (hg : boards[n]? = some g)
    (hbefore : (last :: boards)[n]? = some before) :
    (w.reports boards)[n]? = some true ↔ Reached start g ∧ ¬ Reached start before := by
  induction boards generalizing w last n with
  | nil => cases hg
  | cons b boards ih =>
    obtain ⟨hreport, hlater⟩ := h.update b
    cases n with
    | zero =>
      cases hg
      cases hbefore
      rw [← hreport]
      simp [reports]
    | succ n => exact ih hlater hg hbefore

/-- Where a watch reports an arrival there is a board, and one before. -/
theorem exists_boards_of_report {boards : List (Grid Tile)} {n : Nat} {b : Bool}
    (h : (w.reports boards)[n]? = some b) (last : Grid Tile) :
    ∃ g before, boards[n]? = some g ∧ (last :: boards)[n]? = some before := by
  have hn : n < boards.length := by
    rw [← w.length_reports]
    exact (List.getElem?_eq_some_iff.1 h).1
  exact ⟨boards[n], _, List.getElem?_eq_getElem hn,
    List.getElem?_eq_getElem (by rw [List.length_cons]; omega)⟩

/-- Between two reports no flag is reached on some board. -/
theorem Remembers.exists_unreached (h : Remembers start last w) {boards : List (Grid Tile)}
    {i j : Nat} (hij : i < j) (hi : (w.reports boards)[i]? = some true)
    (hj : (w.reports boards)[j]? = some true) :
    ∃ k g, i < k ∧ k < j ∧ boards[k]? = some g ∧ ¬ Reached start g := by
  obtain ⟨g, before, hg, hbefore⟩ := exists_boards_of_report hj last
  have hoff := ((h.getElem?_reports hg hbefore).1 hj).2
  -- The board before the second report is a later one than that of the first.
  obtain ⟨k, rfl⟩ : ∃ k, j = k + 1 := ⟨j - 1, by omega⟩
  rw [List.getElem?_cons_succ] at hbefore
  have hne : i ≠ k := by
    rintro rfl
    obtain ⟨g', before', hg', hbefore'⟩ := exists_boards_of_report hi last
    have hon := ((h.getElem?_reports hg' hbefore').1 hi).1
    rw [hbefore] at hg'
    cases hg'
    exact hoff hon
  exact ⟨k, before, by omega, by omega, hbefore, hoff⟩

end FlagWatch

/-! ## The boards of a game -/

namespace Engine

variable {σ : Type}

/-- The boards after each of some cycles. -/
def boards (policy : Policy σ) (e : Engine σ) : List (Option Action) → List (Grid Tile)
  | [] => []
  | player :: players =>
    let next := (e.cycle policy player).engine
    next.board :: boards policy next players

/-- The boards of a game, with the first one in front, are those after ever more cycles. -/
theorem getElem?_boards (policy : Policy σ) (e : Engine σ) (players : List (Option Action))
    {n : Nat} (hn : n ≤ players.length) :
    (e.board :: e.boards policy players)[n]? = some (e.play policy (players.take n)).board := by
  induction players generalizing e n with
  | nil =>
    obtain rfl : n = 0 := Nat.le_zero.1 hn
    rfl
  | cons player players ih =>
    cases n with
    | zero => rfl
    | succ n => exact ih (e.cycle policy player).engine (Nat.le_of_succ_le_succ hn)

end Engine

/-- **Arrivals.** A watch on the level reports an arrival exactly where a flag is reached that was
not reached on the board before. This goes for any boards, and so for those of any game from the
board of the level. -/
theorem FlagWatch.arrivals (l : Level) (start : Grid Tile) (h : l.initialGrid = some start) :
    let w := ofLevel l
    w.update start = (false, w) ∧
    (∀ boards : List (Grid Tile), (w.reports boards).length = boards.length ∧
      (∀ (n : Nat) g before, boards[n]? = some g → (start :: boards)[n]? = some before →
        ((w.reports boards)[n]? = some true ↔ Reached start g ∧ ¬ Reached start before)) ∧
      ∀ i j : Nat, i < j → (w.reports boards)[i]? = some true → (w.reports boards)[j]? = some true →
        ∃ k g, i < k ∧ k < j ∧ boards[k]? = some g ∧ ¬ Reached start g) ∧
    ∀ {σ : Type} (policy : Policy σ) (memory : σ) (players : List (Option Action)) (n : Nat),
      let game (k : Nat) := ((Engine.start start memory).play policy (players.take k)).board
      n < players.length →
        ((w.reports ((Engine.start start memory).boards policy players))[n]? = some true ↔
          Reached start (game (n + 1)) ∧ ¬ Reached start (game n)) := by
  intro w
  have hw : Remembers start start w := remembers_ofLevel h
  refine ⟨?_, fun boards => ⟨w.length_reports boards, ?_, ?_⟩, ?_⟩
  · have hnone : w.flags.any (holdsPlayer start) = false := by
      rw [Bool.eq_false_iff]
      exact fun hany => not_reached_start start ((hw.any_iff start).1 hany)
    have hoff : w.onFlag = false := rfl
    simp only [update, hnone, Bool.false_and]
    rw [← hoff]
  · intro n g before hg hbefore
    exact hw.getElem?_reports hg hbefore
  · intro i j hij hi hj
    exact hw.exists_unreached hij hi hj
  · intro σ policy memory players n game hn
    have hboard := Engine.getElem?_boards policy (.start start memory) players
      (n := n + 1) hn
    have hbefore := Engine.getElem?_boards policy (.start start memory) players hn.le
    exact hw.getElem?_reports hboard hbefore

/-- A level with a player in front of a flag. -/
def homestretch : Level :=
  { name := "Homestretch", script := none, layout := [[.player, .flag, .empty]], directions := [] }

/-- The game on that level. -/
def homestretchGame : Engine Mind := .start (homestretch.initialGrid.get (by decide)) .idle

/-- The player walks over the flag and back onto its cell, with a rest after each arrival: there
are two reports, and between them the player has left the cell. -/
theorem homestretch_arrivals :
    let boards := homestretchGame.boards Mind.policy
      [some .moveForward, none, some .moveForward, some .moveBack, none]
    homestretch.initialGrid = some homestretchGame.board ∧
      (FlagWatch.ofLevel homestretch).reports boards = [true, false, false, true, false] ∧
      ∃ k g, 0 < k ∧ k < 3 ∧ boards[k]? = some g ∧ ¬ Reached homestretchGame.board g := by
  intro boards
  have hstart : homestretch.initialGrid = some homestretchGame.board := by decide
  have hreports : (FlagWatch.ofLevel homestretch).reports boards =
      [true, false, false, true, false] := by decide
  have hboards := (FlagWatch.arrivals homestretch homestretchGame.board hstart).2.1 boards
  exact ⟨hstart, hreports, hboards.2.2 0 3 (by decide) (by rw [hreports]; rfl)
    (by rw [hreports]; rfl)⟩

end Gridwalk
