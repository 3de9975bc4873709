import Gridwalk.Config.Load
import Gridwalk.Play.FlagWatch
import Gridwalk.Play.Session
import Gridwalk.Terminal.Command
import Gridwalk.Terminal.Item

/-!
# Playing on a terminal

A game opens a level and then answers lines of commands. What the commands of a line lead to is
shown as it happens, and after each line the state of the game is shown. A command that quits ends
the game at once, without showing the state.
-/

namespace Gridwalk.Terminal

/-- A game on the terminal. -/
structure State where
  session : Session
  watch : FlagWatch
  last : Option CycleSummary

/-- A state and what was printed and logged on the way to it. -/
structure Step where
  state : State
  items : List Item
  records : List LogRecord

/-- The events among outputs, as they are printed. -/
def eventItems (os : List Output) : List Item := (Output.events os).map .event

/-- Opens the first level. -/
def start (files : Files) (config : Config) (level : Path) : Step :=
  let reply := (Session.start config).openLevel files level
  { state :=
      { session := reply.session
        watch := match reply.session.level with
          | some l => .ofLevel l
          | none => {}
        last := none }
    items := eventItems reply.outputs ++ [.help]
    records := Output.records reply.outputs }

/-- The text of a script that could not be turned into tokens; empty if it is gone by now. -/
def reread (files : Files) (path : Path) : String :=
  match files.read path with
  | .ok text => text
  | .error _ => ""

/-- The complaints about a request that failed. -/
def complaints (files : Files) : SessionError → List Item
  | .script (.invalid path cause) => (cause.report (reread files path)).map .failure
  | e => [.failure e.message]

/-- Runs the script of the level. -/
def runScript (files : Files) (st : State) : Step :=
  match st.session.level.bind (·.script) with
  | none => ⟨st, [.noScript], []⟩
  | some path =>
    let reply := st.session.handle files (.run path)
    let failed := match reply.result with
      | .ok () => []
      | .error e => complaints files e
    { state := { st with session := reply.session }
      items := eventItems reply.outputs ++ failed
      records := Output.records reply.outputs }

/-- Runs a cycle with an action of the players. -/
def act (files : Files) (st : State) (action : Action) : Step :=
  let reply := st.session.cycle (some action)
  let (last, failed) := match reply.result with
    | .ok summary => (some summary, [])
    | .error e => (st.last, complaints files e)
  { state := { st with session := reply.session, last }
    items := eventItems reply.outputs ++ failed
    records := Output.records reply.outputs }

/-- Does what a word asks for. There is no step when it asks to quit. -/
def command (files : Files) (st : State) : Command → Option Step
  | .quit => none
  | .script => some (runScript files st)
  | .act action => some (act files st action)
  | .unknown => some ⟨st, [.help], []⟩

/-- What a line of words leads to. -/
structure Outcome where
  state : State
  items : List Item
  records : List LogRecord
  quit : Bool

/-- Does what words ask for, up to one that quits. -/
def perform (files : Files) (st : State) : List Command → Outcome
  | [] => ⟨st, [], [], false⟩
  | c :: cs =>
    match command files st c with
    | none => ⟨st, [], [], true⟩
    | some step =>
      let rest := perform files step.state cs
      { rest with
        items := step.items ++ rest.items
        records := step.records ++ rest.records }

/-- Shows the state of the game, if there is a board. -/
def showState (st : State) : State × List Item :=
  match st.session.level, st.session.engine with
  | some l, some e =>
    let (reached, watch) := st.watch.update e.board
    let flag := if reached then [Item.flagReached] else []
    ({ st with watch }, [.status l.name st.last, .board e.board] ++ flag)
  | _, _ => (st, [])

/-- Does what a line asks for and, unless it quits, shows the state. -/
def line (files : Files) (st : State) (cs : List Command) : Outcome :=
  let p := perform files st cs
  if p.quit then p
  else
    let (state, items) := showState p.state
    { p with state, items := p.items ++ items }

/-- Does what lines ask for, up to a word that quits. -/
def lines (files : Files) (st : State) : List (List Command) → Outcome
  | [] => ⟨st, [], [], false⟩
  | cs :: rest =>
    let p := line files st cs
    if p.quit then p
    else
      let q := lines files p.state rest
      { q with items := p.items ++ q.items, records := p.records ++ q.records }

/-! ## From the beginning -/

/-- The level to open: the one that is asked for, or the first one of the settings. -/
def levelToOpen (config : Config) (arguments : List String) : Option Path :=
  match arguments with
  | a :: _ => some ⟨a⟩
  | [] => config.levels.head?

/-- The exit code when there is no level to open. -/
def noLevelCode : Nat := 2

/-- Plays a whole game: the exit code and the printed lines. -/
def play (files : Files) (environment : Option String) (arguments : List String)
    (input : ByteArray) : Nat × List String :=
  let config := (Config.discover files environment).1
  match levelToOpen config arguments with
  | none => (noLevelCode, [])
  | some level =>
    let first := start files config level
    let rest := lines files first.state (typed input)
    (0, (first.items ++ rest.items).flatMap (Item.lines config.symbols))

end Gridwalk.Terminal
