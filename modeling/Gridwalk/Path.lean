/-!
# Paths

A path is a text whose segments are separated by slashes; a leading slash makes it absolute.
Empty segments and the segment `.` do not matter, except that a relative path may begin with `.`.
What is left are its components.

The operations work on the text, so that a path keeps the form it was written in: `join` puts one
path behind another, `parent?` cuts the last component off, and `stem?` is the name of a file
without its last extension.
-/

namespace Gridwalk

/-- A path, as it is written. -/
structure Path where
  text : String
  deriving DecidableEq, Repr, Inhabited

namespace Path

/-- A part of a path that has a meaning. -/
inductive Component where
  | root
  | here
  | up
  | name (segment : List Char)
  deriving DecidableEq, Repr

/-- The pieces of a text between slashes, at least one. -/
def splitSlashes : List Char → List (List Char)
  | [] => [[]]
  | c :: cs =>
    if c = '/' then [] :: splitSlashes cs
    else match splitSlashes cs with
      | [] => [[c]]
      | s :: ss => (c :: s) :: ss

/-- The text that has these pieces between its slashes. -/
def joinSlashes (segments : List (List Char)) : List Char :=
  List.intercalate ['/'] segments

/-- The component that a segment gives, if it matters. -/
def component? : List Char → Option Component
  | [] => none
  | ['.'] => none
  | ['.', '.'] => some .up
  | segment => some (.name segment)

/-- The segment does not matter. -/
def isIdle (segment : List Char) : Bool := (component? segment).isNone

def isAbsolute (p : Path) : Bool := p.text.toList.head? == some '/'

/-- What a path begins with, ahead of the components of its segments. -/
def anchor (p : Path) : List Component :=
  if p.isAbsolute then [.root]
  else if (splitSlashes p.text.toList).head? = some ['.'] then [.here]
  else []

/-- The components of a path. -/
def components (p : Path) : List Component :=
  p.anchor ++ (splitSlashes p.text.toList).filterMap component?

/-- Puts a path behind a directory. An absolute path stays as it is. -/
def join (dir p : Path) : Path :=
  if p.isAbsolute then p
  else if dir.text = "" ∨ dir.text.toList.getLast? = some '/' then ⟨dir.text ++ p.text⟩
  else ⟨dir.text ++ "/" ++ p.text⟩

/-- The segments up to the last one that matters. -/
def dropIdleEnd (segments : List (List Char)) : List (List Char) :=
  (segments.reverse.dropWhile isIdle).reverse

/-- The path without its last component, and without what does not matter before that. -/
def parent? (p : Path) : Option Path :=
  let segments := splitSlashes p.text.toList
  let cut (lead bare : String) (body : List (List Char)) : Path :=
    match dropIdleEnd body.dropLast with
    | [] => ⟨bare⟩
    | rest => ⟨lead ++ String.ofList (joinSlashes rest)⟩
  if p.isAbsolute then
    match dropIdleEnd segments.tail with
    | [] => none
    | body => some (cut "/" "/" body)
  else if segments.head? = some ['.'] then
    match dropIdleEnd segments.tail with
    | [] => some ⟨""⟩
    | body => some (cut "./" "." body)
  else
    match dropIdleEnd segments with
    | [] => none
    | body => some (cut "" "" body)

/-- The last component, if it is a name. -/
def fileName? (p : Path) : Option (List Char) :=
  match p.components.getLast? with
  | some (.name segment) => some segment
  | _ => none

/-- A name without its last extension. A dot at the beginning starts no extension. -/
def stemOf (name : List Char) : List Char :=
  match (name.reverse.dropWhile (· ≠ '.')).tail.reverse with
  | [] => name
  | stem => stem

/-- The last component without its last extension, if it is a name. -/
def stem? (p : Path) : Option (List Char) := p.fileName?.map stemOf

end Path

end Gridwalk
