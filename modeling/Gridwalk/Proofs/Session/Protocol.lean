import Gridwalk.Proofs.Level.Shape
import Gridwalk.Proofs.Session.View
import Mathlib

/-!
# The protocol of a session

The events of a session are a protocol of what is open: levels are opened and closed in turn, an
opening first, and tiles change only while a level with a board is open (`WellBracketed`).

**Theorem (`Session.run_protocol`).** The events of a fresh session follow the protocol. After any
requests the open level is the one that the events show, a game is running exactly if that level
has a width, its board is as large as the level, and its cycles are the turns that were asked for
since a level was selected last.

The invariant is `Session.Tracks`, which relates a session to the requests and the events so far.
Each request preserves it (`Session.Tracks.handle`): closing and selecting tell what they do to the
open level, and the deeds of a cycle change tiles of a board whose size stays the same.
-/

namespace Gridwalk

/-! ## Brackets -/

/-- What is open after an event, if the event is about that. -/
def Event.bracket? : Event → Option (Option Level)
  | .levelOpened l => some (some l)
  | .levelClosed => some none
  | .tileChanged _ | .tokenized _ => none

/-- The level that is open after events: that of an opening which no other bracket follows. -/
def openAfter (told : List Event) : Option Level :=
  ((told.filterMap Event.bracket?).getLast?).join

/-- The event may follow these. -/
def Event.Follows (told : List Event) : Event → Prop
  | .levelOpened _ => openAfter told = none
  | .levelClosed => openAfter told ≠ none
  | .tileChanged _ => ∃ l, openAfter told = some l ∧ l.initialGrid ≠ none
  | .tokenized _ => True

/-- Every event may follow those before it. -/
def WellBracketed (events : List Event) : Prop :=
  ∀ told e, told ++ [e] <+: events → e.Follows told

@[simp] theorem openAfter_nil : openAfter [] = none := rfl

@[simp] theorem openAfter_levelOpened (told : List Event) (l : Level) :
    openAfter (told ++ [.levelOpened l]) = some l := by
  simp [openAfter, Event.bracket?]

@[simp] theorem openAfter_levelClosed (told : List Event) :
    openAfter (told ++ [.levelClosed]) = none := by
  simp [openAfter, Event.bracket?]

@[simp] theorem openAfter_tileChanged (told : List Event) (c : TileChange) :
    openAfter (told ++ [.tileChanged c]) = openAfter told := by
  simp [openAfter, Event.bracket?]

@[simp] theorem openAfter_tokenized (told : List Event) (ts : List Script.Token) :
    openAfter (told ++ [.tokenized ts]) = openAfter told := by
  simp [openAfter, Event.bracket?]

theorem wellBracketed_nil : WellBracketed [] := by
  intro told e h
  simp at h

theorem WellBracketed.concat {told : List Event} (h : WellBracketed told) {e : Event}
    (he : e.Follows told) : WellBracketed (told ++ [e]) := by
  intro before e' hprefix
  rcases List.prefix_concat_iff.1 hprefix with heq | hprefix
  · obtain ⟨hbefore, hlast⟩ := List.append_inj' heq rfl
    cases hbefore
    cases hlast
    exact he
  · exact h before e' hprefix

/-- While a level with a board is open, tiles may change. -/
theorem WellBracketed.changes {told : List Event} (h : WellBracketed told) {l : Level}
    (hopen : openAfter told = some l) (hboard : l.initialGrid ≠ none) (cs : List TileChange) :
    WellBracketed (told ++ cs.map .tileChanged) ∧
      openAfter (told ++ cs.map .tileChanged) = some l := by
  induction cs generalizing told with
  | nil => simpa using ⟨h, hopen⟩
  | cons c cs ih =>
    have hfirst := h.concat (e := .tileChanged c) ⟨l, hopen, hboard⟩
    rw [List.map_cons, List.append_cons]
    exact ih hfirst (by rw [openAfter_tileChanged, hopen])

/-! ## Turns -/

namespace Request

/-- The request is to open a level. -/
def isSelection : Request → Bool
  | select _ => true
  | run _ | close | act _ | wait => false

/-- The request is to run a cycle. -/
def isTurn : Request → Bool
  | act _ | wait => true
  | run _ | select _ | close => false

/-- The number of turns behind the last selection. -/
def turnsSinceSelection (asked : List Request) : Nat :=
  (asked.reverse.takeWhile fun r => !r.isSelection).countP isTurn

theorem turnsSinceSelection_concat (asked : List Request) (r : Request) :
    turnsSinceSelection (asked ++ [r]) =
      if r.isSelection then 0
      else turnsSinceSelection asked + if r.isTurn then 1 else 0 := by
  rw [turnsSinceSelection, List.reverse_append, List.reverse_singleton, List.singleton_append,
    List.takeWhile_cons]
  cases r.isSelection with
  | true => rfl
  | false => exact List.countP_cons

end Request

/-! ## Sessions -/

namespace Session

variable {files : Files} {s : Session} {asked : List Request} {told : List Event}

/-- What the requests so far and the events that they led to tell about a session. -/
structure Tracks (asked : List Request) (told : List Event) (s : Session) : Prop where
  protocol : WellBracketed told
  level : s.level = openAfter told
  playing : s.engine ≠ none ↔ ∃ l, s.level = some l ∧ l.width ≠ 0
  engine : ∀ e, s.engine = some e → ∃ l, s.level = some l ∧ e.board.width = l.width ∧
    e.board.height = l.height ∧ e.cycles = Request.turnsSinceSelection asked

theorem tracks_start (config : Config) : Tracks [] [] (start config) where
  protocol := wellBracketed_nil
  level := rfl
  playing := by simp [start]
  engine := by
    rintro e ⟨⟩

/-- Closing ends the open level, if there is one. -/
theorem closeLevel_tracks (h : Tracks asked told s) :
    WellBracketed (told ++ Output.events s.closeLevel.outputs) ∧
      openAfter (told ++ Output.events s.closeLevel.outputs) = none := by
  cases hl : s.level with
  | none =>
    have hopen : openAfter told = none := h.level.symm.trans hl
    simpa [closeLevel, hl] using ⟨h.protocol, hopen⟩
  | some l =>
    have hopen : openAfter told ≠ none := by
      rw [← h.level, hl]
      simp
    simpa [closeLevel, hl] using h.protocol.concat (e := .levelClosed) hopen

/-- A request that is no selection and runs no cycle leaves the session as it was. -/
theorem Tracks.stay (h : Tracks asked told s) {r : Request} (hselection : r.isSelection = false)
    (hturn : r.isTurn = true → s.engine = none) (es : List Event)
    (hprotocol : WellBracketed (told ++ es)) (hopen : openAfter (told ++ es) = openAfter told) :
    Tracks (asked ++ [r]) (told ++ es) s where
  protocol := hprotocol
  level := h.level.trans hopen.symm
  playing := h.playing
  engine := by
    intro e he
    have hnot : r.isTurn = false := by
      by_contra hr
      rw [hturn (by simpa using hr)] at he
      cases he
    rw [Request.turnsSinceSelection_concat, hselection, hnot]
    exact h.engine e he

theorem tracks_openLevel (h : Tracks asked told s) (path : Path) :
    Tracks (asked ++ [.select path]) (told ++ Output.events (s.openLevel files path).outputs)
      (s.openLevel files path).session := by
  obtain ⟨hclosed, hnone⟩ := closeLevel_tracks h
  obtain ⟨l, records, hload⟩ : ∃ l records, Level.load files path s.config.symbols = (l, records) :=
    ⟨_, _, rfl⟩
  have hevents : told ++ Output.events (s.openLevel files path).outputs =
      told ++ Output.events s.closeLevel.outputs ++ [.levelOpened l] := by
    simp [openLevel, hload]
  have hturns : Request.turnsSinceSelection (asked ++ [.select path]) = 0 :=
    Request.turnsSinceSelection_concat asked (.select path)
  have hlevel : (s.openLevel files path).session.level = some l := by simp [openLevel, hload]
  rw [hevents]
  constructor
  case protocol => exact hclosed.concat hnone
  case level => exact hlevel.trans (openAfter_levelOpened _ l).symm
  case playing => simp [openLevel, hload, Level.initialGrid_eq_none_iff]
  case engine =>
    intro e he
    simp only [openLevel, hload, Option.map_eq_some_iff] at he
    obtain ⟨g, hg, rfl⟩ := he
    obtain ⟨hwidth, hheight, -⟩ := Level.size_of_initialGrid hg
    exact ⟨l, hlevel, hwidth, hheight, hturns.symm⟩

theorem tracks_closeLevel (h : Tracks asked told s) :
    Tracks (asked ++ [.close]) (told ++ Output.events s.closeLevel.outputs)
      s.closeLevel.session := by
  obtain ⟨hclosed, hnone⟩ := closeLevel_tracks h
  exact ⟨hclosed, hnone.symm, by simp [closeLevel], by simp [closeLevel]⟩

theorem tracks_tokenize (h : Tracks asked told s) (path : Path) :
    Tracks (asked ++ [.run path]) (told ++ Output.events (s.tokenize files path).outputs) s := by
  have hevents : Output.events (s.tokenize files path).outputs = [] ∨
      ∃ ts, Output.events (s.tokenize files path).outputs = [.tokenized ts] := by
    simp only [tokenize, Output.events_append, Output.events_map_record, List.nil_append]
    split <;> simp
  rcases hevents with hnone | ⟨ts, hsome⟩
  · rw [hnone, List.append_nil]
    simpa using h.stay (r := .run path) rfl (by simp [Request.isTurn]) []
      (by simpa using h.protocol) (by simp)
  · rw [hsome]
    exact h.stay rfl (by simp [Request.isTurn]) _ (h.protocol.concat trivial)
      (openAfter_tokenized told ts)

theorem tracks_cycle (h : Tracks asked told s) {r : Request} (hselection : r.isSelection = false)
    (hturn : r.isTurn = true) (player : Option Action) :
    Tracks (asked ++ [r]) (told ++ Output.events (s.cycle player).outputs)
      (s.cycle player).session := by
  cases he : s.engine with
  | none =>
    rw [cycle_of_no_game he]
    exact h.stay hselection (fun _ => he) _ (by simpa using h.protocol) (by simp)
  | some e =>
    obtain ⟨l, hl, hwidth, hheight, hcycles⟩ := h.engine e he
    obtain ⟨l', hl', hne⟩ := h.playing.1 (by simp [he])
    rw [hl] at hl'
    cases hl'
    have hboard : l.initialGrid ≠ none := fun hnone => hne (Level.initialGrid_eq_none_iff.1 hnone)
    have hopen : openAfter told = some l := h.level.symm.trans hl
    obtain ⟨hprotocol, hstill⟩ :=
      h.protocol.changes hopen hboard (e.cycle Mind.policy player).changes
    rw [cycle_of_game he, CycleResult.events_outputs]
    constructor
    case protocol => exact hprotocol
    case level => exact hl.trans hstill.symm
    case playing => simpa using ⟨l, hl, hne⟩
    case engine =>
      rintro e' ⟨⟩
      have hsize := (Engine.cycle_painted Mind.policy e player).size
      refine ⟨l, hl, hsize.width.trans hwidth, hsize.height.trans hheight, ?_⟩
      rw [Request.turnsSinceSelection_concat, hselection, hturn, ← hcycles]
      rfl

/-- **One request.** -/
theorem Tracks.handle (h : Tracks asked told s) (r : Request) :
    Tracks (asked ++ [r]) (told ++ Output.events (s.handle files r).outputs)
      (s.handle files r).session := by
  cases r with
  | select path => exact tracks_openLevel h path
  | close => exact tracks_closeLevel h
  | run path => exact tracks_tokenize h path
  | act action => exact tracks_cycle h rfl rfl (some action)
  | wait => exact tracks_cycle h rfl rfl none

theorem Tracks.run (h : Tracks asked told s) (rs : List Request) :
    Tracks (asked ++ rs) (told ++ Output.events (s.run files rs).outputs)
      (s.run files rs).session := by
  induction rs generalizing s asked told with
  | nil => simpa [Session.run] using h
  | cons r rs ih =>
    rw [List.append_cons, events_run_cons, ← List.append_assoc]
    exact ih (h.handle r)

/-- **The protocol of a session.** After any requests to a fresh session, its events follow the
protocol, and they and the requests tell its open level and its game. -/
theorem run_protocol (files : Files) (config : Config) (requests : List Request) :
    Tracks requests (Output.events (run files (start config) requests).outputs)
      (run files (start config) requests).session :=
  (tracks_start config).run requests

end Session

end Gridwalk
