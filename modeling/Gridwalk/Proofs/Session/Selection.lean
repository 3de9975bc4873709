import Gridwalk.Proofs.Session.View
import Mathlib

/-!
# Selecting a level forgets the past

A session that selects a level goes on like a fresh one with the same settings. Nothing of the old
game is left: neither its board nor its cycle count nor the memory of its policy, so a wandering
enemy makes the same choices again.

**Theorem (`Session.select_forgets`).** Requests that begin with a selection lead to the same
session and the same answers after any history as in a fresh session, and to the same events but
for the closing of the level that the history left open.

All that a selection takes from the session before it are the settings, and no request changes
them (`Session.config_run`). So the two sessions are equal right behind the selection, and equal
sessions go on in the same way.
-/

namespace Gridwalk.Session

variable {files : Files} {s t : Session}

/-! ## Answers -/

/-- The answers to requests, in order. -/
def answers (files : Files) (s : Session) : List Request → List (Except SessionError Unit)
  | [] => []
  | r :: rs => (s.handle files r).result :: answers files (s.handle files r).session rs

theorem answers_append (s : Session) (rs later : List Request) :
    s.answers files (rs ++ later) =
      s.answers files rs ++ (s.run files rs).session.answers files later := by
  induction rs generalizing s with
  | nil => rfl
  | cons r rs ih =>
    rw [List.cons_append, answers, answers, session_run_cons, ih, List.cons_append]

theorem session_run_append (s : Session) (rs later : List Request) :
    (s.run files (rs ++ later)).session = ((s.run files rs).session.run files later).session := by
  induction rs generalizing s with
  | nil => rfl
  | cons r rs ih => exact ih (s.handle files r).session

/-! ## Settings -/

theorem config_handle (s : Session) (r : Request) :
    (s.handle files r).session.config = s.config := by
  cases r with
  | select path | close | run path => rfl
  | act action | wait =>
    simp only [handle, Reply.forget, cycle]
    split <;> rfl

/-- No request changes the settings. -/
theorem config_run (s : Session) (rs : List Request) :
    (s.run files rs).session.config = s.config := by
  induction rs generalizing s with
  | nil => rfl
  | cons r rs ih =>
    rw [session_run_cons, ih]
    exact config_handle s r

/-! ## Selections -/

/-- What is told when the open level is closed. -/
def farewell (s : Session) : List Event :=
  match s.level with
  | none => []
  | some _ => [.levelClosed]

theorem events_closeLevel (s : Session) : Output.events s.closeLevel.outputs = s.farewell := by
  cases hl : s.level <;> simp [closeLevel, farewell, hl]

theorem events_openLevel (s : Session) (path : Path) :
    Output.events (s.openLevel files path).outputs =
      s.farewell ++ [.levelOpened (Level.load files path s.config.symbols).1] := by
  simp [openLevel, events_closeLevel]

section Selections

variable (files)

/-- All that a selection takes from the session before it are the settings. -/
theorem session_select_eq (h : s.config = t.config) (path : Path) :
    (s.handle files (.select path)).session = (t.handle files (.select path)).session := by
  simp only [handle, openLevel, h]

/-- What a selection tells besides the closing depends on the settings only. -/
theorem exists_events_select (h : s.config = t.config) (path : Path) :
    ∃ opening, Output.events (s.handle files (.select path)).outputs = s.farewell ++ opening ∧
      Output.events (t.handle files (.select path)).outputs = t.farewell ++ opening := by
  refine ⟨[.levelOpened (Level.load files path t.config.symbols).1], ?_, ?_⟩
  · rw [← h]
    exact events_openLevel s path
  · exact events_openLevel t path

end Selections

/-- **Selecting forgets.** After any history, requests that begin with a selection lead to the
session, the answers and, after the closing of the open level, the events of a fresh session. -/
theorem select_forgets (files : Files) (config : Config) (history rest : List Request)
    (path : Path) :
    let fresh := start config
    let old := (fresh.run files history).session
    let requests := .select path :: rest
    (fresh.run files (history ++ requests)).session = (fresh.run files requests).session ∧
      fresh.answers files (history ++ requests) =
        fresh.answers files history ++ fresh.answers files requests ∧
      Output.events (fresh.run files (history ++ requests)).outputs =
        Output.events (fresh.run files history).outputs ++
          (old.farewell ++ Output.events (fresh.run files requests).outputs) := by
  intro fresh old requests
  have hconfig : old.config = fresh.config := config_run fresh history
  have hsession := session_select_eq files hconfig path
  obtain ⟨opening, hevents, hevents'⟩ := exists_events_select files hconfig path
  refine ⟨?_, ?_, ?_⟩
  · rw [session_run_append]
    exact congrArg (fun s => (run files s rest).session) hsession
  · -- A selection never fails, so its answer is the same as well.
    have hanswers : old.answers files requests = fresh.answers files requests := by
      rw [answers, answers, hsession]
      rfl
    rw [answers_append, hanswers]
  · have hfarewell : fresh.farewell = [] := rfl
    rw [events_run_append, events_run_cons, events_run_cons, hevents, hevents', hsession, hfarewell,
      List.nil_append, List.append_assoc]

end Gridwalk.Session
