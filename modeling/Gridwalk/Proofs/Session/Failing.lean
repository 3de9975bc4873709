import Gridwalk.Proofs.Session.Protocol
import Gridwalk.Proofs.Session.Selection
import Mathlib

/-!
# Failing requests leave no trace

Turns fail where no game is running, and scripts fail if their file cannot be read as text or does
not hold a script. Nothing else fails (`Request.Fails`).

**Theorem (`Session.failures_leave_no_trace`).**

- A request fails exactly for these reasons, and then the session stays as it was and tells nothing.
- Running a script tells its tokens and leaves the session as it was.
- Requests come to the same without those among them that fail: to the same session and the same
  events. Without the scripts that are run, only their tokens are missing.
- Requests are answered one by one and in order, whether or not they fail, and all are counted.

All of this comes from what one request comes to (`Session.Outcome`): it fails, it runs a script, or
it succeeds and tells no tokens. In the first two cases the later requests find the session as it
was, so leaving the request out makes no difference to them.
-/

namespace Gridwalk

/-! ## Script files -/

/-- A script file gives tokens if it is text and the text is a script. -/
theorem Script.tokenizeFile_eq (files : Files) (path : Path) :
    (tokenizeFile files path).1 =
      match files.read path with
      | .error cause => .error (.unreadable path cause)
      | .ok source => (tokenize source).mapError (.invalid path) := by
  unfold tokenizeFile
  cases files.read path with
  | error cause => rfl
  | ok source =>
    dsimp only
    cases tokenize source <;> rfl

/-! ## Why requests fail -/

namespace Request

/-- The request is to run a script. -/
def isRun : Request → Bool
  | run _ => true
  | select _ | close | act _ | wait => false

/-- The request fails in the session, for this reason. -/
inductive Fails (files : Files) (s : Session) : Request → SessionError → Prop
  | noLevel {r : Request} (turn : r.isTurn = true) (no_game : s.engine = none) :
      Fails files s r .noLevel
  | unreadable {path : Path} {cause : FileError} (read : files.read path = .error cause) :
      Fails files s (.run path) (.script (.unreadable path cause))
  | invalid {path : Path} {source : String} {cause : Script.LexError}
      (read : files.read path = .ok source) (refused : Script.tokenize source = .error cause) :
      Fails files s (.run path) (.script (.invalid path cause))

end Request

/-- The event tells the tokens of a script. -/
def Event.isTokens : Event → Bool
  | .tokenized _ => true
  | .levelOpened _ | .levelClosed | .tileChanged _ => false

namespace Session

variable {files : Files} {s : Session} {r : Request}

/-! ## What one request comes to -/

/-- What a request comes to in a session. -/
inductive Outcome (files : Files) (s : Session) (r : Request) (reply : Reply Unit) : Prop
  | fails {e : SessionError} (cause : r.Fails files s e) (result : reply.result = .error e)
      (session : reply.session = s) (told : Output.events reply.outputs = [])
  | runs {path : Path} {source : String} {tokens : List Script.Token} (request : r = .run path)
      (read : files.read path = .ok source) (accepted : Script.tokenize source = .ok tokens)
      (result : reply.result = .ok ()) (session : reply.session = s)
      (told : Output.events reply.outputs = [.tokenized tokens])
  | succeeds (not_run : r.isRun = false) (result : reply.result = .ok ())
      (told : ∀ e ∈ Output.events reply.outputs, e.isTokens = false)

theorem result_of_fails {e : SessionError} (h : r.Fails files s e) :
    (s.handle files r).result = .error e := by
  cases h with
  | noLevel hturn hnone =>
    cases r with
    | act action | wait =>
      rw [handle, cycle_of_no_game hnone]
      rfl
    | run path | select path | close => cases hturn
  | @unreadable path cause hread =>
    have hfile := Script.tokenizeFile_eq files path
    rw [hread] at hfile
    simp [handle, Reply.forget, tokenize, hfile, Except.mapError, Except.map]
  | @invalid path source cause hread hrefused =>
    have hfile := Script.tokenizeFile_eq files path
    simp only [hread, hrefused] at hfile
    simp [handle, Reply.forget, tokenize, hfile, Except.mapError, Except.map]

/-- What running a script tells. -/
theorem events_handle_run (files : Files) (s : Session) (path : Path) :
    Output.events (s.handle files (.run path)).outputs =
      match (Script.tokenizeFile files path).1 with
      | .ok tokens => [.tokenized tokens]
      | .error _ => [] := by
  simp only [handle, Reply.forget, tokenize, Output.events_append, Output.events_map_record,
    List.nil_append]
  cases (Script.tokenizeFile files path).1 <;> rfl

theorem outcome_run (path : Path) :
    Outcome files s (.run path) (s.handle files (.run path)) := by
  have hevents := events_handle_run files s path
  have hfile := Script.tokenizeFile_eq files path
  cases hread : files.read path with
  | error cause =>
    have hfails : Request.Fails files s (.run path) _ := .unreadable hread
    simp only [hread] at hfile
    rw [hfile] at hevents
    exact .fails hfails (result_of_fails hfails) rfl hevents
  | ok source =>
    simp only [hread] at hfile
    cases htokens : Script.tokenize source with
    | error cause =>
      have hfails : Request.Fails files s (.run path) _ := .invalid hread htokens
      rw [htokens] at hfile
      rw [hfile] at hevents
      exact .fails hfails (result_of_fails hfails) rfl hevents
    | ok tokens =>
      rw [htokens] at hfile
      rw [hfile] at hevents
      refine .runs rfl hread htokens ?_ rfl hevents
      simp [handle, Reply.forget, tokenize, hfile, Except.mapError, Except.map]

theorem outcome_turn (hturn : r.isTurn = true) (hrun : r.isRun = false) {player : Option Action}
    (hhandle : s.handle files r = (s.cycle player).forget) :
    Outcome files s r (s.handle files r) := by
  cases hengine : s.engine with
  | none =>
    have hfails : r.Fails files s .noLevel := .noLevel hturn hengine
    rw [hhandle, cycle_of_no_game hengine]
    exact .fails hfails rfl rfl rfl
  | some e =>
    rw [hhandle, cycle_of_game hengine]
    refine .succeeds hrun rfl fun event hevent => ?_
    rw [Reply.forget, CycleResult.events_outputs] at hevent
    obtain ⟨change, -, rfl⟩ := List.mem_map.1 hevent
    rfl

theorem isTokens_of_mem_farewell {e : Event} (h : e ∈ s.farewell) : e.isTokens = false := by
  unfold farewell at h
  split at h
  · cases h
  · rw [List.mem_singleton.1 h]
    rfl

/-- **One request** fails, runs a script, or succeeds and tells no tokens. -/
theorem outcome_handle (files : Files) (s : Session) (r : Request) :
    Outcome files s r (s.handle files r) := by
  cases r with
  | run path => exact outcome_run path
  | select path =>
    refine .succeeds rfl rfl fun e he => ?_
    rw [handle, events_openLevel, List.mem_append] at he
    rcases he with he | he
    · exact isTokens_of_mem_farewell he
    · rw [List.mem_singleton.1 he]
      rfl
  | close =>
    refine .succeeds rfl rfl fun e he => ?_
    rw [handle, events_closeLevel] at he
    exact isTokens_of_mem_farewell he
  | act action => exact outcome_turn rfl rfl rfl
  | wait => exact outcome_turn rfl rfl rfl

theorem result_eq_error_iff {e : SessionError} :
    (s.handle files r).result = .error e ↔ r.Fails files s e := by
  constructor
  · intro h
    cases outcome_handle files s r with
    | fails hcause hresult _ _ =>
      rw [hresult] at h
      cases h
      exact hcause
    | runs _ _ _ hresult _ _ | succeeds _ hresult _ =>
      rw [hresult] at h
      cases h
  · exact result_of_fails

/-! ## Leaving requests out -/

/-- Those of the requests that do not fail when all of them are handled. -/
def succeeding (files : Files) (s : Session) : List Request → List Request
  | [] => []
  | r :: rs =>
    let later := succeeding files (s.handle files r).session rs
    match (s.handle files r).result with
    | .ok _ => r :: later
    | .error _ => later

/-- Requests come to the same without those that fail. -/
theorem run_succeeding (files : Files) (s : Session) (rs : List Request) :
    (s.run files (s.succeeding files rs)).session = (s.run files rs).session ∧
      Output.events (s.run files (s.succeeding files rs)).outputs =
        Output.events (s.run files rs).outputs := by
  induction rs generalizing s with
  | nil => exact ⟨rfl, rfl⟩
  | cons r rs ih =>
    obtain ⟨hsession, hevents⟩ := ih (s.handle files r).session
    rw [succeeding, events_run_cons, session_run_cons]
    cases outcome_handle files s r with
    | fails _ hresult hstays htold =>
      rw [hresult, htold, List.nil_append]
      rw [hstays] at hsession hevents ⊢
      exact ⟨hsession, hevents⟩
    | runs _ _ _ hresult _ _ | succeeds _ hresult _ =>
      rw [hresult]
      dsimp only
      rw [events_run_cons, session_run_cons, hsession, hevents]
      exact ⟨rfl, rfl⟩

/-- Without the scripts that are run, only their tokens are missing. -/
theorem run_filter_not_isRun (files : Files) (s : Session) (rs : List Request) :
    (s.run files (rs.filter fun r => !r.isRun)).session = (s.run files rs).session ∧
      Output.events (s.run files (rs.filter fun r => !r.isRun)).outputs =
        (Output.events (s.run files rs).outputs).filter fun e => !e.isTokens := by
  induction rs generalizing s with
  | nil => exact ⟨rfl, rfl⟩
  | cons r rs ih =>
    obtain ⟨hsession, hevents⟩ := ih (s.handle files r).session
    rw [events_run_cons, session_run_cons, List.filter_append, ← hsession, ← hevents]
    cases hrun : r.isRun with
    | false =>
      have htold : ∀ e ∈ Output.events (s.handle files r).outputs, (!e.isTokens) = true := by
        cases outcome_handle files s r with
        | fails _ _ _ htold => simp [htold]
        | runs hpath => simp [hpath, Request.isRun] at hrun
        | succeeds _ _ htold => simpa using htold
      rw [List.filter_cons_of_pos (by simp [hrun]), events_run_cons, session_run_cons,
        List.filter_eq_self.2 htold]
      exact ⟨rfl, rfl⟩
    | true =>
      have hquiet : (s.handle files r).session = s ∧
          (Output.events (s.handle files r).outputs).filter (fun e => !e.isTokens) = [] := by
        cases outcome_handle files s r with
        | fails _ _ hstays htold => simp [htold, hstays]
        | runs _ _ _ _ hstays htold => simp [htold, hstays, Event.isTokens]
        | succeeds hnot _ _ => simp [hnot] at hrun
      rw [List.filter_cons_of_neg (by simp [hrun]), hquiet.1, hquiet.2]
      exact ⟨rfl, rfl⟩

/-! ## One by one -/

/-- A failure is logged. -/
def complaint : Except SessionError Unit → List Output
  | .ok () => []
  | .error e => [.record ⟨.error, e.message⟩]

/-- A run goes on with one more request. -/
def Run.next (files : Files) (before : Run) (r : Request) : Run :=
  let reply := before.session.handle files r
  ⟨reply.session, before.handled + 1,
    before.outputs ++ (reply.outputs ++ complaint reply.result)⟩

/-- Requests go on from what others have come to. -/
theorem foldl_next (before : Run) (rs : List Request) :
    rs.foldl (Run.next files) before =
      ⟨(before.session.run files rs).session, before.handled + rs.length,
        before.outputs ++ (before.session.run files rs).outputs⟩ := by
  induction rs generalizing before with
  | nil => simp [run]
  | cons r rs ih =>
    rw [List.foldl_cons, ih]
    simp only [Run.next, run, List.length_cons, List.append_assoc, Run.mk.injEq, true_and]
    refine ⟨by omega, ?_⟩
    cases (before.session.handle files r).result <;> simp [complaint]

theorem handled_run (files : Files) (s : Session) (rs : List Request) :
    (s.run files rs).handled = rs.length := by
  induction rs generalizing s with
  | nil => rfl
  | cons r rs ih => exact congrArg (· + 1) (ih (s.handle files r).session)

theorem run_eq_foldl (files : Files) (s : Session) (rs : List Request) :
    s.run files rs = rs.foldl (Run.next files) ⟨s, 0, []⟩ := by
  rw [foldl_next, Nat.zero_add, List.nil_append, ← handled_run files s rs]

/-- **Failures leave no trace.** -/
theorem failures_leave_no_trace (files : Files) (s : Session) (rs : List Request) :
    (∀ r, Outcome files s r (s.handle files r) ∧
      ∀ e, (s.handle files r).result = .error e ↔ r.Fails files s e) ∧
    ((s.run files (s.succeeding files rs)).session = (s.run files rs).session ∧
      Output.events (s.run files (s.succeeding files rs)).outputs =
        Output.events (s.run files rs).outputs) ∧
    ((s.run files ((s.succeeding files rs).filter fun r => !r.isRun)).session =
        (s.run files rs).session ∧
      Output.events (s.run files ((s.succeeding files rs).filter fun r => !r.isRun)).outputs =
        (Output.events (s.run files rs).outputs).filter fun e => !e.isTokens) ∧
    s.run files rs = rs.foldl (Run.next files) ⟨s, 0, []⟩ ∧
    (s.run files rs).handled = rs.length := by
  obtain ⟨hsession, hevents⟩ := run_succeeding files s rs
  obtain ⟨hsilent, htold⟩ := run_filter_not_isRun files s (s.succeeding files rs)
  refine ⟨fun r => ⟨outcome_handle files s r, fun e => result_eq_error_iff⟩, ⟨hsession, hevents⟩,
    ⟨hsilent.trans hsession, ?_⟩, run_eq_foldl files s rs, handled_run files s rs⟩
  rw [htold, hevents]

end Session

end Gridwalk
