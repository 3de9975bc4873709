import Gridwalk.Json.Scalar

/-!
# The text of a document

`Reading.ofText` turns a text into a reading. What follows the value besides blanks is a failure
of its own, which comes to light only when the value has been decoded.
-/

namespace Gridwalk.Json

def isSpace (c : Char) : Bool := c == ' ' || c == '\n' || c == '\t' || c == '\r'

def skipSpaces (cs : List Char) : List Char := cs.dropWhile isSpace

/-- Carries on behind a string, if the text does. -/
def Scan.string : Scan (Except Failure String) → Reading × Option (List Char)
  | .done value rest => (.string value, some rest)
  | .stuck read skip => (.broken read skip, none)

/-- Carries on behind a word or a number, if the text does. -/
def Scan.bare {α : Type} (make : α → Reading) : Scan α → Reading × Option (List Char)
  | .done value rest => (make value, some rest)
  | .stuck read skip => (.brokenBare read skip, none)

def Scan.word (value : Reading) (letters rest : List Char) : Reading × Option (List Char) :=
  (scanWord () letters rest).bare fun _ => value

mutual

/-- Reads a value. Fuel is spent on every value and on every item or field; since each bracket,
comma or value takes a character, more than twice the length of the text never runs out. -/
def readValue : Nat → List Char → Reading × Option (List Char)
  | 0, _ => (.broken .truncated .truncated, none)
  | fuel + 1, cs =>
    match skipSpaces cs with
    | [] => (.broken .truncated .truncated, none)
    | 'n' :: r => Scan.word .null ['u', 'l', 'l'] r
    | 't' :: r => Scan.word (.bool true) ['r', 'u', 'e'] r
    | 'f' :: r => Scan.word (.bool false) ['a', 'l', 's', 'e'] r
    | '"' :: r => (scanString .plain (.ok []) r).string
    | '-' :: r => (scanUnsigned true r).bare .number
    | '[' :: r =>
      match skipSpaces r with
      | [] => (.array (.broken .truncated), none)
      | ']' :: r' => (.array .closed, some r')
      | r' =>
        let (items, rest) := readItems fuel r'
        (.array items, rest)
    | '{' :: r =>
      match skipSpaces r with
      | [] => (.object (.broken .truncated), none)
      | '}' :: r' => (.object .closed, some r')
      | r' =>
        let (fields, rest) := readFields fuel r'
        (.object fields, rest)
    | c :: r =>
      if c.isDigit then (scanUnsigned false (c :: r)).bare .number
      else (.broken .malformed .malformed, none)

/-- Reads items from the beginning of one on. -/
def readItems : Nat → List Char → Items × Option (List Char)
  | 0, _ => (.broken .truncated, none)
  | fuel + 1, cs =>
    match readValue fuel cs with
    | (v, none) => (.item v (.broken .malformed), none)
    | (v, some r) =>
      match skipSpaces r with
      | [] => (.item v (.broken .truncated), none)
      | ']' :: r' => (.item v .closed, some r')
      | ',' :: r' =>
        let (items, rest) := readItems fuel r'
        (.item v items, rest)
      | _ => (.item v (.broken .malformed), none)

/-- Reads fields from the beginning of one on. A name is a string and nothing else. -/
def readFields : Nat → List Char → Fields × Option (List Char)
  | 0, _ => (.broken .truncated, none)
  | fuel + 1, cs =>
    match skipSpaces cs with
    | [] => (.brokenName .truncated .truncated, none)
    | '"' :: r =>
      match scanString .plain (.ok []) r with
      | .stuck read skip => (.brokenName read skip, none)
      | .done name r' =>
        let (v, next) := match skipSpaces r' with
          | [] => (.broken .truncated .truncated, none)
          | ':' :: r'' => readValue fuel r''
          | _ => (.broken .malformed .malformed, none)
        match next with
        | none => (.field name v (.broken .malformed), none)
        | some r =>
          match skipSpaces r with
          | [] => (.field name v (.broken .truncated), none)
          | '}' :: r' => (.field name v .closed, some r')
          | ',' :: r' =>
            let (fields, rest) := readFields fuel r'
            (.field name v fields, rest)
          | _ => (.field name v (.broken .malformed), none)
    | _ => (.broken .malformed, none)

end

/-- A value and what is wrong behind it. -/
structure Document where
  reading : Reading
  trailing : Except Failure Unit

/-- Reads a whole text. -/
def Document.ofText (text : String) : Document :=
  let cs := text.toList
  let (reading, rest) := readValue (2 * cs.length + 1) cs
  match rest with
  | none => ⟨reading, .ok ()⟩
  | some r => ⟨reading, if skipSpaces r = [] then .ok () else .error .malformed⟩

end Gridwalk.Json
