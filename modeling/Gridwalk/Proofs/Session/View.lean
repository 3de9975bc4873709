import Gridwalk.Play.Session
import Gridwalk.Proofs.Cycle.Ledger
import Mathlib

/-!
# Views of a session

A *view* knows a session by its events alone: the opening of a level shows the board that the
level starts from, its closing shows nothing, and a change of a tile overwrites one cell of what
is shown. A change of a cell that is not shown makes no sense to a view (`View.after?` is `none`).

**Theorem (`view_follows_run`).** A view that starts blank and is told the events of a fresh
session shows, after every request, exactly the board of the running game, and shows nothing
exactly when there is no game. All changes on the way make sense.

The step is `handle_followed`: the events of one request take the view of the session before it
to the view of the session after it. For a cycle this is `Painted.follow?`, since what is told is
what the deeds of the cycle write. Closing is told only if a level is open, so the session also has
to be `Coherent`: where no level is open, no game is running.
-/

namespace Gridwalk

/-- What a watcher shows: a board, or nothing. -/
structure View where
  board : Option (Grid Tile)

namespace View

/-- Nothing is shown. -/
def blank : View := ⟨none⟩

/-- The view after an event, which has to be about a cell that is shown if it changes one. -/
def after? (v : View) : Event → Option View
  | .levelOpened level => some ⟨level.initialGrid⟩
  | .levelClosed => some blank
  | .tokenized _ => some v
  | .tileChanged change => do
    let board ← v.board
    let changed ← (board.set change.coord change.tile).toOption
    return ⟨some changed⟩

/-- The view after events, all of which have to make sense. -/
def follow? (v : View) (events : List Event) : Option View := events.foldlM after? v

theorem follow?_append (v : View) (es fs : List Event) :
    v.follow? (es ++ fs) = (v.follow? es).bind fun w => w.follow? fs :=
  List.foldlM_append

@[simp] theorem follow?_nil (v : View) : v.follow? [] = some v := rfl

@[simp] theorem follow?_levelOpened (v : View) (l : Level) :
    v.follow? [.levelOpened l] = some ⟨l.initialGrid⟩ := rfl

@[simp] theorem follow?_levelClosed (v : View) : v.follow? [.levelClosed] = some blank := rfl

@[simp] theorem follow?_tokenized (v : View) (ts : List Script.Token) :
    v.follow? [.tokenized ts] = some v := rfl

end View

/-- Being told what is written to a board turns its view into that of the board it becomes. -/
theorem Painted.follow? {before after : Grid Tile} {ws : List TileChange}
    (h : Painted before ws after) :
    View.follow? ⟨some before⟩ (ws.map .tileChanged) = some ⟨some after⟩ := by
  induction ws generalizing before with
  | nil =>
    rw [h.eq_of_nil]
    rfl
  | cons w ws ih =>
    obtain ⟨mid, hmid, hrest⟩ := h.exists_set
    have hafter : View.after? ⟨some before⟩ (.tileChanged w) = some ⟨some mid⟩ := by
      simp [View.after?, hmid, Except.toOption]
    rw [List.map_cons, View.follow?, List.foldlM_cons, hafter]
    exact ih hrest

/-! ## The events in an output -/

namespace Output

@[simp] theorem events_nil : events [] = [] := rfl

@[simp] theorem events_append (os ps : List Output) : events (os ++ ps) = events os ++ events ps :=
  List.filterMap_append

@[simp] theorem events_event (e : Event) (os : List Output) :
    events (.event e :: os) = e :: events os := rfl

@[simp] theorem events_record (r : LogRecord) (os : List Output) :
    events (.record r :: os) = events os := rfl

@[simp] theorem events_map_record (rs : List LogRecord) : events (rs.map .record) = [] := by
  simp [events, List.filterMap_map]

end Output

theorem CycleResult.events_outputs {σ : Type} (r : CycleResult σ) :
    Output.events r.outputs = r.changes.map .tileChanged := by
  simp only [outputs, Output.events_append, Output.events_map_record, List.nil_append]
  simp [Output.events, List.filterMap_map]

/-! ## One request -/

namespace Session

variable {files : Files} {s : Session}

/-- The view that shows the board of the running game. -/
def view (s : Session) : View := ⟨s.engine.map (·.board)⟩

/-- Without an open level no game is running. -/
def Coherent (s : Session) : Prop := s.level = none → s.engine = none

theorem cycle_of_no_game (h : s.engine = none) (player : Option Action) :
    s.cycle player = ⟨s, .error .noLevel, []⟩ := by
  rw [cycle, h]

theorem cycle_of_game {e : Engine Mind} (h : s.engine = some e) (player : Option Action) :
    s.cycle player =
      ⟨{ s with engine := some (e.cycle Mind.policy player).engine },
        .ok (e.cycle Mind.policy player).summary, (e.cycle Mind.policy player).outputs⟩ := by
  rw [cycle, h]

theorem closeLevel_followed (h : s.Coherent) :
    s.view.follow? (Output.events s.closeLevel.outputs) = some .blank := by
  cases hl : s.level with
  | none => simp [closeLevel, hl, view, h hl, View.blank]
  | some l => simp [closeLevel, hl]

theorem openLevel_followed (h : s.Coherent) (path : Path) :
    s.view.follow? (Output.events (s.openLevel files path).outputs) =
      some (s.openLevel files path).session.view := by
  have hclosed := closeLevel_followed h
  simp only [openLevel, Output.events_append, Output.events_map_record, Output.events_record,
    Output.events_event, Output.events_nil, List.append_nil]
  rw [View.follow?_append, hclosed]
  simp [view, Engine.start, Function.comp_def]

theorem tokenize_followed (path : Path) :
    s.view.follow? (Output.events (s.tokenize files path).outputs) = some s.view := by
  simp only [tokenize, Output.events_append, Output.events_map_record, List.nil_append]
  split <;> simp

theorem cycle_followed (player : Option Action) :
    s.view.follow? (Output.events (s.cycle player).outputs) =
      some (s.cycle player).session.view := by
  cases he : s.engine with
  | none => simp [cycle, he]
  | some e =>
    simp only [cycle, he, view, Option.map_some, CycleResult.events_outputs,
      Engine.cycle_changes]
    exact (Engine.cycle_painted Mind.policy e player).follow?

theorem coherent_handle (h : s.Coherent) (r : Request) : (s.handle files r).session.Coherent := by
  cases r with
  | select path =>
    intro hl
    simp [handle, openLevel] at hl
  | close =>
    intro _
    rfl
  | run path => exact h
  | act action | wait =>
    cases he : s.engine with
    | none => simpa [handle, Reply.forget, cycle, he] using h
    | some e =>
      intro hl
      have hlevel : s.level = none := by simpa [handle, Reply.forget, cycle, he] using hl
      rw [h hlevel] at he
      cases he

/-- **One request.** Its events take the view of the session to that of the session after it. -/
theorem handle_followed (h : s.Coherent) (r : Request) :
    s.view.follow? (Output.events (s.handle files r).outputs) =
      some (s.handle files r).session.view := by
  cases r with
  | select path => exact openLevel_followed h path
  | close => exact closeLevel_followed h
  | run path => exact tokenize_followed path
  | act action => exact cycle_followed (some action)
  | wait => exact cycle_followed none

/-! ## Runs -/

theorem events_run_cons (s : Session) (r : Request) (rs : List Request) :
    Output.events (s.run files (r :: rs)).outputs =
      Output.events (s.handle files r).outputs ++
        Output.events ((s.handle files r).session.run files rs).outputs := by
  simp only [run, Output.events_append]
  cases (s.handle files r).result <;> simp

theorem session_run_cons (s : Session) (r : Request) (rs : List Request) :
    (s.run files (r :: rs)).session = ((s.handle files r).session.run files rs).session := rfl

/-- The events of a run go on from those of its beginning. -/
theorem events_run_append (s : Session) (rs later : List Request) :
    Output.events (s.run files (rs ++ later)).outputs =
      Output.events (s.run files rs).outputs ++
        Output.events ((s.run files rs).session.run files later).outputs := by
  induction rs generalizing s with
  | nil => simp [run]
  | cons r rs ih =>
    rw [List.cons_append, events_run_cons, events_run_cons, session_run_cons, ih,
      List.append_assoc]

theorem run_followed (h : s.Coherent) (rs : List Request) :
    s.view.follow? (Output.events (s.run files rs).outputs) =
      some (s.run files rs).session.view := by
  induction rs generalizing s with
  | nil => simp [run]
  | cons r rs ih =>
    rw [events_run_cons, View.follow?_append, handle_followed h r]
    exact ih (coherent_handle h r)

/-- **Views follow sessions.** Told the events of a fresh session, a view shows after each of its
requests the board of the running game, and nothing exactly when no game is running. -/
theorem view_follows_run (files : Files) (config : Config) (requests later : List Request) :
    let told := Output.events (run files (start config) requests).outputs
    let session := (run files (start config) requests).session
    told <+: Output.events (run files (start config) (requests ++ later)).outputs ∧
      ∃ shown, View.blank.follow? told = some shown ∧
        shown.board = session.engine.map (·.board) ∧
        (shown.board = none ↔ session.engine = none) := by
  intro told session
  refine ⟨?_, session.view, ?_, rfl, ?_⟩
  · rw [events_run_append]
    exact List.prefix_append _ _
  · exact run_followed (s := start config) (fun _ => rfl) requests
  · simp [view]

end Session

end Gridwalk
