/-!
# Log records

The operations that can run into something worth telling return the records they would log, in
order, beside their answer. A record is a severity and a line of text; nothing is written here.
-/

namespace Gridwalk

/-- How serious a record is, the most serious first. -/
inductive Severity where
  | error
  | warn
  | info
  | debug
  | trace
  deriving DecidableEq, Repr

namespace Severity

def name : Severity → String
  | error => "error"
  | warn => "warn"
  | info => "info"
  | debug => "debug"
  | trace => "trace"

/-- The number of severities that are more serious. -/
def rank : Severity → Nat
  | error => 0
  | warn => 1
  | info => 2
  | debug => 3
  | trace => 4

/-- All severities, the most serious first. -/
def all : List Severity := [error, warn, info, debug, trace]

def ofName? (s : String) : Option Severity := all.find? (·.name == s)

end Severity

/-- One line of the log. -/
structure LogRecord where
  severity : Severity
  text : String
  deriving DecidableEq, Repr

/-- The record is at least as serious as `bound`. -/
def LogRecord.atLeast (bound : Severity) (r : LogRecord) : Bool :=
  r.severity.rank ≤ bound.rank

end Gridwalk
