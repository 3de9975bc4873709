import Gridwalk.Number.Shortest

/-!
# Documents

A document is a JSON value. Its text may be faulty, so a text is first turned into a `Reading`:
the value as far as the text allows it, with a mark at the first place where it breaks off.
Whoever decodes a reading walks through it from left to right and reports the first failure met,
be it a break of the text or a value of the wrong shape.

**Two ways past a value.** A value that is wanted is read; one under a field that nobody knows is
only skipped. A few texts can be skipped but not read: a string that names half of a surrogate
pair, a number beyond every double. So a mark carries both outcomes.
-/

namespace Gridwalk.Json

/-- Why a text is not a document: it ends too early, or something else stands there. -/
inductive Failure where
  | truncated
  | malformed
  deriving DecidableEq, Repr

/-- A number as it is read: an integer of 64 bits if it is written as one and fits. -/
inductive Number where
  | natural (n : Nat)
  | negative (n : Int)
  | floating (x : Double)
  deriving DecidableEq, Repr

/-- A JSON value. The fields of an object keep their order, and a name may come twice. -/
inductive Value where
  | null
  | bool (b : Bool)
  | number (n : Number)
  | string (s : String)
  | array (items : List Value)
  | object (fields : List (String × Value))
  deriving Repr

mutual

/-- A value as far as its text could be read. -/
inductive Reading where
  | null
  | bool (b : Bool)
  | number (n : Except Failure Number)
  | string (s : Except Failure String)
  | array (items : Items)
  | object (fields : Fields)
  /-- The text stops being a document here, for one who reads and for one who skips. -/
  | broken (read skip : Failure)
  /-- A word or a number breaks off here. Who has no use for either need not look at it. -/
  | brokenBare (read skip : Failure)

/-- The items of an array, up to the closing bracket or to a failure. -/
inductive Items where
  | closed
  | broken (failure : Failure)
  | item (head : Reading) (tail : Items)

/-- The fields of an object, up to the closing brace or to a failure. -/
inductive Fields where
  | closed
  | broken (failure : Failure)
  | field (name : Except Failure String) (value : Reading) (tail : Fields)
  /-- The name of a field breaks off, for one who reads and for one who skips. -/
  | brokenName (read skip : Failure)

end

instance : Inhabited Reading := ⟨.null⟩

/-! ## Values as readings -/

mutual

/-- The reading of a faultless text of the value. -/
def Value.reading : Value → Reading
  | .null => .null
  | .bool b => .bool b
  | .number n => .number (.ok n)
  | .string s => .string (.ok s)
  | .array items => .array (readings items)
  | .object fields => .object (fieldReadings fields)

def readings : List Value → Items
  | [] => .closed
  | v :: vs => .item v.reading (readings vs)

def fieldReadings : List (String × Value) → Fields
  | [] => .closed
  | (name, v) :: fs => .field (.ok name) v.reading (fieldReadings fs)

end

/-! ## Readings as values -/

/-- Arrays and objects may be nested this deep. -/
def maxDepth : Nat := 127

/-- One level of nesting less, or a failure when none is left. -/
def enter : Nat → Except Failure Nat
  | 0 => .error .malformed
  | depth + 1 => .ok depth

mutual

/-- The value of a reading with at most `depth` levels of nesting. -/
def Reading.value (depth : Nat) : Reading → Except Failure Value
  | .null => .ok .null
  | .bool b => .ok (.bool b)
  | .number n => n.map .number
  | .string s => s.map .string
  | .array items => do
    let depth ← enter depth
    return .array (← items.values depth)
  | .object fields => do
    let depth ← enter depth
    return .object (← fields.values depth)
  | .broken read _ | .brokenBare read _ => .error read

def Items.values (depth : Nat) : Items → Except Failure (List Value)
  | .closed => .ok []
  | .broken failure => .error failure
  | .item head tail => do
    let v ← head.value depth
    return v :: (← tail.values depth)

def Fields.values (depth : Nat) : Fields → Except Failure (List (String × Value))
  | .closed => .ok []
  | .broken failure => .error failure
  | .brokenName read _ => .error read
  | .field name value tail => do
    let name ← name
    let v ← value.value depth
    return (name, v) :: (← tail.values depth)

end

/-! ## Skipping -/

mutual

/-- Goes past a value that is not wanted. Only the form of the text is looked at. -/
def Reading.skip : Reading → Except Failure Unit
  | .array items => items.skip
  | .object fields => fields.skip
  | .broken _ skip | .brokenBare _ skip => .error skip
  | .null | .bool _ | .number _ | .string _ => .ok ()

def Items.skip : Items → Except Failure Unit
  | .closed => .ok ()
  | .broken failure => .error failure
  | .item head tail => do
    head.skip
    tail.skip

def Fields.skip : Fields → Except Failure Unit
  | .closed => .ok ()
  | .broken failure => .error failure
  | .brokenName _ skip => .error skip
  | .field _ value tail => do
    value.skip
    tail.skip

end

end Gridwalk.Json
