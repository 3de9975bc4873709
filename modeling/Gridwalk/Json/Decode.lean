import Gridwalk.Json.Text
import Gridwalk.Text.Quoted

/-!
# Decoding documents

A decoder takes a reading and the number of levels of nesting that are left to it, and gives a
value or the first failure met from left to right.

**Enumerations** are written as the name of a variant, or as an object with that name as its only
field. **Records** are objects whose known fields may each come once; many may also be written as
an array of their fields in order.
-/

namespace Gridwalk.Json

/-! ## Complaints -/

/-- What a document holds instead of what was expected. -/
inductive Found where
  | null
  | bool (b : Bool)
  | number (n : Number)
  | string (s : String)
  | sequence
  | map
  | unitVariant
  deriving Repr

def Found.describe : Found → String
  | .null => "null"
  | .bool b => s!"boolean `{b}`"
  | .number (.natural n) => s!"integer `{n}`"
  | .number (.negative n) => s!"integer `{n}`"
  | .number (.floating x) => s!"floating point `{x.write Double.documentNotation}`"
  | .string s => "string " ++ String.ofList (Text.quote s.toList)
  | .sequence => "sequence"
  | .map => "map"
  | .unitVariant => "unit variant"

/-- How a document has the wrong shape. -/
inductive Mismatch where
  | wrongType (found : Found) (expected : String)
  | wrongValue (found : Found) (expected : String)
  | wrongLength (length : Nat) (expected : String)
  | missingField (name : String)
  | duplicateField (name : String)
  | unknownVariant (name : String) (variants : List String)
  | noVariant (type : String)
  | longSymbol (key : String)
  deriving Repr

/-- The choice between names, each in backticks. -/
def describeChoice : List String → String
  | [] => "there are no variants"
  | [a] => s!"expected `{a}`"
  | [a, b] => s!"expected `{a}` or `{b}`"
  | names => "expected one of " ++ ", ".intercalate (names.map fun n => s!"`{n}`")

def Mismatch.message : Mismatch → String
  | wrongType found expected => s!"invalid type: {found.describe}, expected {expected}"
  | wrongValue found expected => s!"invalid value: {found.describe}, expected {expected}"
  | wrongLength length expected => s!"invalid length {length}, expected {expected}"
  | missingField name => s!"missing field `{name}`"
  | duplicateField name => s!"duplicate field `{name}`"
  | unknownVariant name variants => s!"unknown variant `{name}`, {describeChoice variants}"
  | noVariant type => s!"data did not match any variant of untagged enum {type}"
  | longSymbol key => s!"tile symbol '{key}' must be exactly one character"

/-- Why a document cannot be decoded. -/
inductive DecodeError where
  | text (failure : Failure)
  | shape (mismatch : Mismatch)
  deriving Repr

def DecodeError.message : DecodeError → String
  | text .truncated => "the text ends inside a value"
  | text .malformed => "the text is not a document"
  | shape m => m.message

/-- A failure of the text is reported as it is. -/
def unread {α : Type} : Except Failure α → Except DecodeError α
  | .ok a => .ok a
  | .error f => .error (.text f)

/-- A decoder of values of a type. -/
abbrev Decoder (α : Type) := Nat → Reading → Except DecodeError α

/-- Decodes a whole text: the value first, then what stands behind it. -/
def Decoder.run {α : Type} (d : Decoder α) (text : String) : Except DecodeError α := do
  let document := Document.ofText text
  let a ← d maxDepth document.reading
  unread document.trailing
  return a

/-! ## Scalars -/

/-- What stands where something else was expected. -/
def Reading.found : Reading → Except Failure Found
  | .null => .ok .null
  | .bool b => .ok (.bool b)
  | .number n => n.map .number
  | .string s => s.map .string
  | .array _ => .ok .sequence
  | .object _ => .ok .map
  | .broken read _ | .brokenBare read _ => .error read

/-- The complaint about a value of the wrong type. -/
def wrongType {α : Type} (expected : String) (r : Reading) : Except DecodeError α := do
  let found ← unread r.found
  .error (.shape (.wrongType found expected))

def decodeString (expected : String) : Decoder String := fun _ r =>
  match r with
  | .string s => unread s
  | r => wrongType expected r

/-- An integer from `low` to `high`. -/
def decodeInt (low high : Int) (expected : String) : Decoder Int := fun _ r =>
  match r with
  | .number n => do
    let n ← unread n
    let inBounds (v : Int) : Except DecodeError Int :=
      if low ≤ v ∧ v ≤ high then .ok v
      else .error (.shape (.wrongValue (.number n) expected))
    match n with
    | .natural v => inBounds v
    | .negative v => inBounds v
    | .floating _ => .error (.shape (.wrongType (.number n) expected))
  | r => wrongType expected r

def decodeUnit : Decoder Unit := fun _ r =>
  match r with
  | .null => .ok ()
  | r => wrongType "unit" r

/-- A value or null. -/
def decodeOption {α : Type} (d : Decoder α) : Decoder (Option α) := fun depth r =>
  match r with
  | .null => .ok none
  | r => some <$> d depth r

/-- The whole value. -/
def decodeValue : Decoder Value := fun depth r => unread (r.value depth)

/-! ## Sequences and maps -/

def decodeItems {α : Type} (d : Decoder α) (depth : Nat) : Items → Except DecodeError (List α)
  | .closed => .ok []
  | .broken f => .error (.text f)
  | .item head tail => do
    let a ← d depth head
    return a :: (← decodeItems d depth tail)

def decodeList {α : Type} (d : Decoder α) : Decoder (List α) := fun depth r =>
  match r with
  | .array items => do decodeItems d (← unread (enter depth)) items
  | r => wrongType "a sequence" r

def decodeEntries {α : Type} (d : Decoder α) (depth : Nat) :
    Fields → Except DecodeError (List (String × α))
  | .closed => .ok []
  | .broken f => .error (.text f)
  | .brokenName read _ => .error (.text read)
  | .field name value tail => do
    let name ← unread name
    let a ← d depth value
    return (name, a) :: (← decodeEntries d depth tail)

/-- The fields of an object in order, whatever their names. -/
def decodeMap {α : Type} (d : Decoder α) : Decoder (List (String × α)) := fun depth r =>
  match r with
  | .object fields => do decodeEntries d (← unread (enter depth)) fields
  | r => wrongType "a map" r

/-! ## Enumerations -/

/-- A variant of an enumeration: its name, what the name alone stands for, and how the value
behind the name is decoded. -/
structure Variant (α : Type) where
  name : String
  bare : Except DecodeError α
  keyed : Decoder α

/-- A variant that carries nothing. -/
def Variant.plain {α : Type} (name : String) (a : α) : Variant α :=
  { name, bare := .ok a, keyed := fun depth r => (fun _ => a) <$> decodeUnit depth r }

/-- A variant that carries data, so that its name alone is not enough. -/
def Variant.carrying {α : Type} (name : String) (d : Decoder α) : Variant α :=
  { name, bare := .error (.shape (.wrongType .unitVariant "struct variant")), keyed := d }

/-- Finds a variant by its name. -/
def findVariant {α : Type} (variants : List (Variant α)) (name : String) :
    Except DecodeError (Variant α) :=
  match variants.find? (·.name == name) with
  | some v => .ok v
  | none => .error (.shape (.unknownVariant name (variants.map (·.name))))

/-- Nothing may follow the only field of an object. -/
def Fields.end : Fields → Except DecodeError Unit
  | .closed => .ok ()
  | .broken f => .error (.text f)
  | .brokenName .. | .field .. => .error (.text .malformed)

/-- The value of an enumeration. Anything but a string or an object is refused unread. -/
def decodeEnum {α : Type} (variants : List (Variant α)) : Decoder α := fun depth r =>
  match r with
  | .string s => do (← findVariant variants (← unread s)).bare
  | .broken read _ => .error (.text read)
  | .object fields => do
    let depth ← unread (enter depth)
    match fields with
    | .closed => .error (.text .malformed)
    | .broken f => .error (.text f)
    | .brokenName read _ => .error (.text read)
    | .field name value tail =>
      let v ← findVariant variants (← unread name)
      let a ← v.keyed depth value
      tail.end
      return a
  | _ => .error (.text .malformed)

/-! ## Records -/

/-- How a record is decoded: its known fields in order, and what becomes of other ones. -/
structure RecordShape (β : Type) where
  known : List (String × Decoder β)
  other : String → Decoder (Option β)

/-- Other fields are skipped. -/
def skipOther {β : Type} (_ : String) : Decoder (Option β) := fun _ r =>
  (fun _ => none) <$> unread r.skip

/-- Decodes the fields of a record from left to right. A known name that was seen before is
refused as soon as it is read. -/
def decodeFields {β : Type} (shape : RecordShape β) (depth : Nat) (seen : List String) :
    Fields → Except DecodeError (List β)
  | .closed => .ok []
  | .broken f => .error (.text f)
  | .brokenName read _ => .error (.text read)
  | .field name value tail => do
    let name ← unread name
    match shape.known.lookup name with
    | some d =>
      if seen.contains name then .error (.shape (.duplicateField name))
      else
        let b ← d depth value
        return b :: (← decodeFields shape depth (name :: seen) tail)
    | none =>
      let b ← shape.other name depth value
      return b.toList ++ (← decodeFields shape depth seen tail)

/-- Decodes the fields of a record that is written as an array, up to the end of the array or of
the known fields. `length` tells what an array that ends early means. -/
def decodePositions {β : Type} (short : Nat → Except DecodeError Unit) (depth : Nat)
    (position : Nat) : List (String × Decoder β) → Items → Except DecodeError (List β)
  | [], .closed => .ok []
  | [], .broken f => .error (.text f)
  | [], .item _ _ => .error (.text .malformed)
  | _ :: _, .closed => do
    short position
    return []
  | _ :: _, .broken f => .error (.text f)
  | (_, d) :: ds, .item head tail => do
    let b ← d depth head
    return b :: (← decodePositions short depth (position + 1) ds tail)

/-- An array that ends before all fields were given has the wrong length. -/
def tooShort (expected : String) (length : Nat) : Except DecodeError Unit :=
  .error (.shape (.wrongLength length expected))

/-- Decodes a record that is an object or an array. -/
def decodeRecord {β : Type} (expected : String) (short : Nat → Except DecodeError Unit)
    (shape : RecordShape β) : Decoder (List β) := fun depth r =>
  match r with
  | .object fields => do decodeFields shape (← unread (enter depth)) [] fields
  | .array items => do decodePositions short (← unread (enter depth)) 0 shape.known items
  | r => wrongType expected r

/-- Decodes a record that is an object. -/
def decodeObject {β : Type} (expected : String) (shape : RecordShape β) : Decoder (List β) :=
  fun depth r =>
    match r with
    | .object fields => do decodeFields shape (← unread (enter depth)) [] fields
    | r => wrongType expected r

/-- A field that has to be there. -/
def require {α : Type} (name : String) : Option α → Except DecodeError α
  | some a => .ok a
  | none => .error (.shape (.missingField name))

end Gridwalk.Json
