import Gridwalk.Path

/-!
# Files

What the library needs to know of a file system is what reading a path gives and whether a path
is a file. `Files` holds just that; a file system that lives in memory is a `FileTree`.
-/

namespace Gridwalk

/-- Why a file cannot be read as text. -/
inductive FileError where
  | notFound
  | notDirectory
  | isDirectory
  | notText
  | other (text : String)
  deriving DecidableEq, Repr

def FileError.message : FileError → String
  | notFound => "No such file or directory (os error 2)"
  | notDirectory => "Not a directory (os error 20)"
  | isDirectory => "Is a directory (os error 21)"
  | notText => "stream did not contain valid UTF-8"
  | other text => text

/-- A view of a file system. -/
structure Files where
  read : Path → Except FileError String
  isFile : Path → Bool

/-! ## Findings -/

/-- What reading a path gave. -/
structure Finding where
  path : Path
  content : Except FileError String

/-- There is a file, whether or not it can be read as text. -/
def Finding.isFile (f : Finding) : Bool :=
  match f.content with
  | .ok _ | .error .notText | .error (.other _) => true
  | .error .notFound | .error .notDirectory | .error .isDirectory => false

/-- A file system of which nothing is known but some findings. -/
def Files.ofFindings (findings : List Finding) : Files where
  read path :=
    match findings.find? (·.path = path) with
    | some f => f.content
    | none => .error .notFound
  isFile path := findings.any fun f => f.path = path && f.isFile

/-! ## Trees in memory -/

/-- What a name in a tree stands for. -/
inductive Node where
  | file (bytes : ByteArray)
  | directory

/-- The files of a tree by the names on the way to them, and directories that may be empty.
Every directory on the way to an entry exists. -/
structure FileTree where
  entries : List (List String × Node)

namespace FileTree

/-- What stands at the end of a way. -/
def node? (t : FileTree) (way : List String) : Option Node :=
  match t.entries.lookup way with
  | some n => some n
  | none =>
    if way.isEmpty || t.entries.any fun e => way.isPrefixOf e.1 then some .directory else none

/-- A place that is reached by walking: in the tree, or in a directory around it, of which
nothing is known. -/
inductive Place where
  | inside (way : List String)
  | outside

/-- Walks along segments from a directory. -/
def walk (t : FileTree) : Place → List (List Char) → Except FileError Node
  | .outside, [] => .ok .directory
  | .inside way, [] =>
    match t.node? way with
    | some n => .ok n
    | none => .error .notFound
  | place, segment :: rest =>
    match place with
    | .inside way =>
      match t.node? way with
      | none => .error .notFound
      | some (.file _) => .error .notDirectory
      | some .directory =>
        match Path.component? segment with
        | some .up =>
          if way.isEmpty then walk t .outside rest else walk t (.inside way.dropLast) rest
        | some (.name name) => walk t (.inside (way ++ [String.ofList name])) rest
        | _ => walk t place rest
    | .outside =>
      match Path.component? segment with
      | some (.name _) => .error .notFound
      | _ => walk t .outside rest

/-- What a path stands for. -/
def resolve (t : FileTree) (p : Path) : Except FileError Node :=
  if p.text = "" then .error .notFound
  else
    let start := if p.isAbsolute then .outside else .inside []
    walk t start (Path.splitSlashes p.text.toList)

def read (t : FileTree) (p : Path) : Except FileError String :=
  match t.resolve p with
  | .error e => .error e
  | .ok .directory => .error .isDirectory
  | .ok (.file bytes) =>
    match String.fromUTF8? bytes with
    | some text => .ok text
    | none => .error .notText

def isFile (t : FileTree) (p : Path) : Bool :=
  match t.resolve p with
  | .ok (.file _) => true
  | _ => false

/-- The tree seen through paths. -/
def files (t : FileTree) : Files := ⟨t.read, t.isFile⟩

end FileTree

end Gridwalk
