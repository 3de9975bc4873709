import Gridwalk.Config.Basic
import Gridwalk.Level.Load
import Gridwalk.Play.Event
import Gridwalk.Script.Load

/-!
# Sessions

A session has the settings, perhaps an open level and, if that level has a board, an engine. It
answers requests one at a time.

- *Opening* a level closes the open one. A level that cannot be loaded is open all the same, as
  its placeholder, but there is nothing to play on it.
- *Running* a script turns its file into tokens and changes nothing.
- *Acting* and *waiting* run one cycle. Without a board they fail.

A request that fails tells nothing and changes nothing.
-/

namespace Gridwalk

inductive Request where
  | run (path : Path)
  | select (path : Path)
  | close
  | act (action : Action)
  | wait
  deriving DecidableEq, Repr

/-- Why a request fails. -/
inductive SessionError where
  | noLevel
  | script (cause : Script.ScriptError)
  deriving DecidableEq, Repr

def SessionError.message : SessionError → String
  | noLevel => "no playable level is open"
  | script cause => cause.message

structure Session where
  config : Config
  level : Option Level
  engine : Option (Engine Mind)

/-- What a request leads to: the session after it, its answer, and what came out meanwhile. -/
structure Reply (α : Type) where
  session : Session
  result : Except SessionError α
  outputs : List Output

namespace Session

/-- A session in which no level is open. -/
def start (config : Config) : Session := ⟨config, none, none⟩

/-- Closes the open level, if there is one. -/
def closeLevel (s : Session) : Reply Unit :=
  { session := { s with level := none, engine := none }
    result := .ok ()
    outputs := match s.level with
      | none => []
      | some l => [.record ⟨.info, s!"closed level '{l.name}'"⟩, .event .levelClosed] }

/-- Opens the level of a file. -/
def openLevel (files : Files) (s : Session) (path : Path) : Reply Unit :=
  let closed := s.closeLevel
  let (level, records) := Level.load files path s.config.symbols
  { session :=
      { s with
        level := some level
        engine := level.initialGrid.map fun g => .start g (.ofPolicy s.config.enemies) }
    result := .ok ()
    outputs := closed.outputs ++ records.map .record ++
      [.record ⟨.info, s!"opened level '{level.name}' ({level.width}x{level.height})"⟩,
        .event (.levelOpened level)] }

/-- Turns a script file into tokens. -/
def tokenize (files : Files) (s : Session) (path : Path) : Reply (List Script.Token) :=
  let (result, records) := Script.tokenizeFile files path
  { session := s
    result := result.mapError .script
    outputs := records.map .record ++ match result with
      | .ok tokens => [.event (.tokenized tokens)]
      | .error _ => [] }

/-- Runs one cycle of the game. -/
def cycle (s : Session) (player : Option Action) : Reply CycleSummary :=
  match s.engine with
  | none => ⟨s, .error .noLevel, []⟩
  | some e =>
    let r := e.cycle Mind.policy player
    { session := { s with engine := some r.engine }
      result := .ok r.summary
      outputs := r.outputs }

end Session

/-- The reply without its answer. -/
def Reply.forget {α : Type} (r : Reply α) : Reply Unit :=
  { session := r.session, result := r.result.map fun _ => (), outputs := r.outputs }

namespace Session

/-- Answers a request. -/
def handle (files : Files) (s : Session) : Request → Reply Unit
  | .select path => s.openLevel files path
  | .close => s.closeLevel
  | .run path => (s.tokenize files path).forget
  | .act action => (s.cycle (some action)).forget
  | .wait => (s.cycle none).forget

/-- What a run of requests leads to. -/
structure Run where
  session : Session
  handled : Nat
  outputs : List Output

/-- Answers requests in order. A failure is logged and does not stop the run. -/
def run (files : Files) (s : Session) : List Request → Run
  | [] => ⟨s, 0, []⟩
  | r :: rs =>
    let reply := s.handle files r
    let failure : List Output := match reply.result with
      | .ok () => []
      | .error e => [.record ⟨.error, e.message⟩]
    let rest := run files reply.session rs
    ⟨rest.session, rest.handled + 1, reply.outputs ++ failure ++ rest.outputs⟩

end Session

end Gridwalk
