import Gridwalk.Proofs.Cycle.Account
import Gridwalk.Proofs.Session.Failing
import Gridwalk.Proofs.Terminal.Transcript
import Mathlib

/-!
# Statuses

The status of a game is one line about its last cycle. It is computed from what the engine counts
and from a summary that is carried along, and it tells about the transcript before it
(`StatusTells`):

- Its number is that of the actions among the words. Without any, it has no other number.
- Otherwise the other number is that of the tiles that changed at the last action.

**Theorem (`statusesTell_transcript`).** In the transcript of a game from its beginning, this is
what all statuses tell.

The invariant is `Recounts`. On a level without a board every action fails, but then there is no
status either.
-/

namespace Gridwalk.Terminal

variable {files : Files} {st st' : State} {before es : List Entry}

/-! ## What a status tells -/

namespace Entry

/-- A word that is an action. -/
def isAction : Entry → Bool
  | word (.act _) => true
  | word .quit | word .script | word .unknown | operation _ | item _ => false

/-- A tile that is printed because it changed. -/
def isChange : Entry → Bool
  | item (.event (.tileChanged _)) => true
  | _ => false

/-- A status that is printed. -/
def isStatus : Entry → Bool
  | item (.status _ _) => true
  | _ => false

/-- The entry makes no difference to what a status tells. -/
structure Neutral (e : Entry) : Prop where
  action : e.isAction = false
  change : e.isChange = false

/-- The entry has nothing to do with statuses. -/
structure Quiet (e : Entry) : Prop extends Neutral e where
  status : e.isStatus = false

end Entry

/-- What a status tells about the entries before it. -/
def StatusTells (before : List Entry) : Option CycleSummary → Prop
  | none => before.countP Entry.isAction = 0
  | some s =>
    s.cycle = before.countP Entry.isAction ∧
      ∃ early action reply late,
        before = early ++ .word (.act action) :: .operation (.cycle action reply) :: late ∧
        late.countP Entry.isAction = 0 ∧ reply.result = .ok s ∧
        s.changed = late.countP Entry.isChange

/-- Every status tells about the entries before it. -/
def StatusesTell (es : List Entry) : Prop :=
  ∀ before name last, before ++ [.item (.status name last)] <+: es → StatusTells before last

theorem countP_isAction_of_neutral (hes : ∀ e ∈ es, e.Neutral) :
    es.countP Entry.isAction = 0 :=
  List.countP_eq_zero.2 fun e he => Bool.eq_false_iff.1 (hes e he).action

/-- A status tells the same behind more entries that make no difference to it. -/
theorem StatusTells.append {last : Option CycleSummary} (h : StatusTells before last)
    (hes : ∀ e ∈ es, e.Neutral) : StatusTells (before ++ es) last := by
  have hactions := countP_isAction_of_neutral hes
  have hchanges : es.countP Entry.isChange = 0 :=
    List.countP_eq_zero.2 fun e he => Bool.eq_false_iff.1 (hes e he).change
  cases last with
  | none =>
    have hbefore : before.countP Entry.isAction = 0 := h
    show (before ++ es).countP Entry.isAction = 0
    rw [List.countP_append, hbefore, hactions]
  | some s =>
    obtain ⟨hcycle, early, action, reply, late, hbefore, hlate, hreply, hchanged⟩ := h
    refine ⟨?_, early, action, reply, late ++ es, ?_, ?_, hreply, ?_⟩
    · rw [hcycle, List.countP_append, hactions, Nat.add_zero]
    · rw [hbefore, List.append_assoc, List.cons_append, List.cons_append]
    · rw [List.countP_append, hlate, hactions]
    · rw [hchanged, List.countP_append, hchanges, Nat.add_zero]

theorem StatusesTell.concat (h : StatusesTell before) {e : Entry}
    (he : ∀ name last, e = .item (.status name last) → StatusTells before last) :
    StatusesTell (before ++ [e]) := by
  intro earlier name last hprefix
  rcases List.prefix_concat_iff.1 hprefix with heq | hprefix
  · obtain ⟨rfl, hlast⟩ := List.append_inj' heq rfl
    exact he name last (List.singleton_inj.1 hlast).symm
  · exact h earlier name last hprefix

/-- Entries that are no statuses add nothing to tell. -/
theorem StatusesTell.append (h : StatusesTell before) (hes : ∀ e ∈ es, e.isStatus = false) :
    StatusesTell (before ++ es) := by
  induction es generalizing before with
  | nil => simpa using h
  | cons e es ih =>
    rw [List.append_cons]
    refine ih (h.concat ?_) fun e' he' => hes e' (List.mem_cons_of_mem e he')
    rintro name last rfl
    cases hes _ List.mem_cons_self

/-! ## The invariant -/

/-- The statuses so far tell what they should, and so would one that is printed now. -/
structure Recounts (before : List Entry) (st : State) : Prop where
  statuses : StatusesTell before
  cycles : ∀ e, st.session.engine = some e → e.cycles = before.countP Entry.isAction
  last : st.session.engine ≠ none → StatusTells before st.last

/-- Entries that make no difference to statuses leave it so while the game does not go on. -/
theorem Recounts.append (h : Recounts before st) (hes : ∀ e ∈ es, e.Neutral)
    (hstatuses : StatusesTell (before ++ es)) (hengine : st'.session.engine = st.session.engine)
    (hlast : st'.last = st.last) : Recounts (before ++ es) st' where
  statuses := hstatuses
  cycles := by
    intro e he
    rw [h.cycles e (hengine ▸ he), List.countP_append, countP_isAction_of_neutral hes,
      Nat.add_zero]
  last := by
    intro hne
    rw [hlast]
    exact (h.last (hengine ▸ hne)).append hes

theorem Recounts.quiet (h : Recounts before st) (hes : ∀ e ∈ es, e.Quiet)
    (hengine : st'.session.engine = st.session.engine) (hlast : st'.last = st.last) :
    Recounts (before ++ es) st' :=
  h.append (fun e he => (hes e he).toNeutral)
    (h.statuses.append fun e he => (hes e he).status) hengine hlast

/-! ## Quiet words -/

theorem quiet_of_mem_stepEntries {c : Command} {step : Step}
    (hc : (Entry.word c).isAction = false) (hitems : ∀ i ∈ step.items, (Entry.item i).Quiet) :
    ∀ e ∈ stepEntries files st c step, e.Quiet := by
  intro e he
  rw [stepEntries, List.mem_cons, List.mem_append, List.mem_map, List.mem_map] at he
  rcases he with rfl | ⟨o, -, rfl⟩ | ⟨i, hi, rfl⟩
  · exact ⟨⟨hc, rfl⟩, rfl⟩
  · exact ⟨⟨rfl, rfl⟩, rfl⟩
  · exact hitems i hi

theorem quiet_of_mem_complaints {cause : SessionError} {i : Item}
    (h : i ∈ complaints files cause) : (Entry.item i).Quiet := by
  unfold complaints at h
  split at h
  · obtain ⟨text, -, rfl⟩ := List.mem_map.1 h
    exact ⟨⟨rfl, rfl⟩, rfl⟩
  · rw [List.mem_singleton.1 h]
    exact ⟨⟨rfl, rfl⟩, rfl⟩

/-- Running a script prints tokens or complaints. -/
theorem quiet_of_mem_runScript {i : Item} (h : i ∈ (runScript files st).items) :
    (Entry.item i).Quiet := by
  unfold runScript at h
  split at h
  · rw [List.mem_singleton.1 h]
    exact ⟨⟨rfl, rfl⟩, rfl⟩
  · next path hpath =>
    dsimp only at h
    rw [eventItems, Session.events_handle_run, List.mem_append] at h
    rcases h with h | h
    · split at h
      · rw [List.mem_singleton.1 h]
        exact ⟨⟨rfl, rfl⟩, rfl⟩
      · cases h
    · split at h
      · cases h
      · exact quiet_of_mem_complaints h

theorem session_runScript (files : Files) (st : State) :
    (runScript files st).state.session = st.session ∧
      (runScript files st).state.last = st.last := by
  unfold runScript
  split <;> exact ⟨rfl, rfl⟩

/-! ## One action -/

/-- The entries of an action, with the tiles that changed. -/
def actionEntries (action : Action) (reply : Reply CycleSummary) (changes : List TileChange) :
    List Entry :=
  .word (.act action) :: .operation (.cycle action reply) ::
    changes.map fun c => .item (.event (.tileChanged c))

section

variable (action : Action) (reply : Reply CycleSummary) (changes : List TileChange)

theorem countP_isAction_actionEntries :
    (actionEntries action reply changes).countP Entry.isAction = 1 := by
  simp [actionEntries, List.countP_cons, Entry.isAction]

theorem isStatus_of_mem_actionEntries {e : Entry} (h : e ∈ actionEntries action reply changes) :
    e.isStatus = false := by
  simp only [actionEntries, List.mem_cons, List.mem_map] at h
  rcases h with rfl | rfl | ⟨c, -, rfl⟩ <;> rfl

/-- Behind an action a status tells of it. -/
theorem statusTells_actionEntries {s : CycleSummary} (hreply : reply.result = .ok s)
    (hcycle : s.cycle = before.countP Entry.isAction + 1) (hchanged : s.changed = changes.length) :
    StatusTells (before ++ actionEntries action reply changes) (some s) := by
  refine ⟨?_, before, action, reply, _, rfl, ?_, hreply, ?_⟩
  · rw [hcycle, List.countP_append, countP_isAction_actionEntries]
  · simp [Entry.isAction]
  · simp [hchanged, Function.comp_def, Entry.isChange]

end

/-- Without a board an action only prints a complaint. -/
theorem act_of_no_game (h : st.session.engine = none) (action : Action) :
    act files st action = ⟨st, [.failure SessionError.noLevel.message], []⟩ := by
  rw [act, Session.cycle_of_no_game h]
  rfl

/-- On a board an action is a cycle of the engine. -/
theorem act_of_game (files : Files) {e : Engine Mind} (h : st.session.engine = some e)
    (action : Action) :
    let r := e.cycle Mind.policy (some action)
    (act files st action).state.session.engine = some r.engine ∧
      (act files st action).state.last = some r.summary ∧
      (act files st action).items = r.changes.map fun c => .event (.tileChanged c) := by
  rw [act, Session.cycle_of_game h]
  refine ⟨rfl, rfl, ?_⟩
  dsimp only
  rw [List.append_nil, eventItems, CycleResult.events_outputs, List.map_map]
  rfl

theorem stepEntries_act (files : Files) {e : Engine Mind} (h : st.session.engine = some e)
    (action : Action) :
    stepEntries files st (.act action) (act files st action) =
      actionEntries action (st.session.cycle (some action))
        (e.cycle Mind.policy (some action)).changes := by
  rw [stepEntries, (act_of_game files h action).2.2, List.map_map]
  rfl

/-- The engine counts an action, and tells how many tiles it changed. -/
theorem Recounts.act (h : Recounts before st) (action : Action) :
    Recounts (before ++ stepEntries files st (.act action) (act files st action))
      (act files st action).state := by
  cases hengine : st.session.engine with
  | none =>
    rw [act_of_no_game hengine]
    refine ⟨h.statuses.append ?_, ?_, fun hne => absurd hengine hne⟩
    · intro e he
      simp only [stepEntries, operation?, Option.toList_some, List.map_cons, List.map_nil,
        List.cons_append, List.nil_append, List.mem_cons, List.not_mem_nil, or_false] at he
      rcases he with rfl | rfl | rfl <;> rfl
    · intro e he
      rw [hengine] at he
      cases he
  | some e =>
    obtain ⟨hnext, hlast, -⟩ := act_of_game files hengine action
    have hreply : (st.session.cycle (some action)).result =
        .ok (e.cycle Mind.policy (some action)).summary := by
      rw [Session.cycle_of_game hengine]
    have hnumber : (e.cycle Mind.policy (some action)).engine.cycles =
        before.countP Entry.isAction + 1 := congrArg (· + 1) (h.cycles e hengine)
    rw [stepEntries_act files hengine action]
    constructor
    case statuses =>
      exact h.statuses.append fun entry => isStatus_of_mem_actionEntries action _ _
    case cycles =>
      intro e' he'
      rw [hnext] at he'
      cases he'
      rw [hnumber, List.countP_append, countP_isAction_actionEntries]
    case last =>
      intro _
      rw [hlast]
      exact statusTells_actionEntries action _ _ hreply hnumber
        (Engine.changed_cycle Mind.policy e (some action))

/-! ## One word -/

theorem Recounts.command (h : Recounts before st) {c : Command} {step : Step}
    (hstep : command files st c = some step) :
    Recounts (before ++ stepEntries files st c step) step.state := by
  cases c with
  | quit => cases hstep
  | act action =>
    cases hstep
    exact h.act action
  | script =>
    cases hstep
    obtain ⟨hsession, hlast⟩ := session_runScript files st
    exact h.quiet (quiet_of_mem_stepEntries rfl fun i => quiet_of_mem_runScript)
      (congrArg Session.engine hsession) hlast
  | unknown =>
    cases hstep
    refine h.quiet (quiet_of_mem_stepEntries rfl fun i hi => ?_) rfl rfl
    rw [List.mem_singleton.1 hi]
    exact ⟨⟨rfl, rfl⟩, rfl⟩

/-! ## Words and lines -/

theorem Recounts.wordEntries (files : Files) (h : Recounts before st) (cs : List Command) :
    Recounts (before ++ wordEntries files st cs) (perform files st cs).state := by
  induction cs generalizing before st with
  | nil => simpa [Terminal.wordEntries, perform] using h
  | cons c cs ih =>
    rw [Terminal.wordEntries, perform]
    cases hc : Terminal.command files st c with
    | none =>
      refine h.quiet (fun e he => ?_) rfl rfl
      rw [List.mem_singleton.1 he, command_eq_none_iff.1 hc]
      exact ⟨⟨rfl, rfl⟩, rfl⟩
    | some step =>
      dsimp only
      rw [← List.append_assoc]
      exact ih (h.command hc)

/-- **One block.** The status in it tells what it should. -/
theorem Recounts.showState (h : Recounts before st) :
    Recounts (before ++ (showState st).2.map .item) (showState st).1 := by
  unfold Terminal.showState
  split
  · next l e hlevel hengine =>
    have hlast : StatusTells before st.last := h.last (by simp [hengine])
    have hstatus : Recounts (before ++ [.item (.status l.name st.last)]) st := by
      refine h.append (fun entry hentry => ?_) (h.statuses.concat ?_) rfl rfl
      · rw [List.mem_singleton.1 hentry]
        exact ⟨rfl, rfl⟩
      · rintro name last ⟨⟩
        exact hlast
    dsimp only
    rw [List.cons_append, List.map_cons, List.append_cons]
    refine hstatus.quiet (fun entry hentry => ?_) rfl rfl
    -- Behind the status come the board and perhaps a flag.
    obtain ⟨i, hi, rfl⟩ := List.mem_map.1 hentry
    rcases List.mem_append.1 hi with hi | hi
    · rw [List.mem_singleton.1 hi]
      exact ⟨⟨rfl, rfl⟩, rfl⟩
    · split at hi
      · rw [List.mem_singleton.1 hi]
        exact ⟨⟨rfl, rfl⟩, rfl⟩
      · cases hi
  · simpa using h

/-- **Lines.** From a state in which a status would tell what it should, all do. -/
theorem Recounts.transcript (h : Recounts before st) (css : List (List Command)) :
    StatusesTell (before ++ transcript files st css) := by
  induction css generalizing before st with
  | nil => simpa [Terminal.transcript] using h.statuses
  | cons cs rest ih =>
    have hwords := h.wordEntries files cs
    by_cases hquit : .quit ∈ cs
    · rw [transcript_cons_of_mem rest hquit]
      exact hwords.statuses
    · rw [transcript_cons_of_notMem rest hquit]
      dsimp only
      rw [← List.append_assoc, ← List.append_assoc]
      exact ih hwords.showState

end Gridwalk.Terminal
