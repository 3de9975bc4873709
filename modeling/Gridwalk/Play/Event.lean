import Gridwalk.Level.Basic
import Gridwalk.Log
import Gridwalk.Play.Engine
import Gridwalk.Script.Token

/-!
# Events

What a session tells to those who watch it. Events and log records come out of a session in one
sequence, since a watcher who has left is itself worth a record for every event.
-/

namespace Gridwalk

inductive Event where
  | levelOpened (level : Level)
  | levelClosed
  | tileChanged (change : TileChange)
  | tokenized (tokens : List Script.Token)
  deriving DecidableEq

/-- A thing that comes out of a session. -/
inductive Output where
  | event (e : Event)
  | record (r : LogRecord)
  deriving DecidableEq

namespace Output

/-- The events among the output. -/
def events (os : List Output) : List Event :=
  os.filterMap fun
    | event e => some e
    | record _ => none

/-- The record of an event that nobody receives. -/
def dropped : LogRecord := ⟨.debug, "event receiver gone, dropping event"⟩

/-- The log of a session that is watched. -/
def records (os : List Output) : List LogRecord :=
  os.filterMap fun
    | event _ => none
    | record r => some r

/-- The log of a session whose watcher has left. -/
def unwatchedRecords (os : List Output) : List LogRecord :=
  os.map fun
    | event _ => dropped
    | record r => r

end Output

/-- What comes out of a cycle: its log, and then its changes. -/
def CycleResult.outputs {σ : Type} (r : CycleResult σ) : List Output :=
  r.records.map .record ++ r.changes.map fun c => .event (.tileChanged c)

end Gridwalk
