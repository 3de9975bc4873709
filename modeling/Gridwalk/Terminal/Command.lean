import Gridwalk.Board.Tile
import Gridwalk.Text.Blank

/-!
# What a player types

A player types lines of words, and every word is a command. Some are actions, one runs the script
of the level, one quits; any other word is unknown.

What is typed arrives as bytes. The first line that is not text ends the input.
-/

namespace Gridwalk.Terminal

/-- What a word asks for. -/
inductive Command where
  | quit
  | script
  | act (action : Action)
  | unknown
  deriving DecidableEq, Repr

def Command.ofWord (word : List Char) : Command :=
  match word with
  | ['q'] => quit
  | ['r'] => script
  | ['w'] => act .moveForward
  | ['s'] => act .moveBack
  | ['a'] => act .turnLeft
  | ['d'] => act .turnRight
  | ['f'] => act .attack
  | ['.'] => act .idle
  | _ => unknown

/-- The commands of a line. -/
def commands (line : String) : List Command := (Text.words line.toList).map Command.ofWord

/-! ## Typed bytes -/

/-- The line feed, which ends a line. -/
def lineFeed : UInt8 := 10

/-- The lines of some bytes. What follows the last line feed is a line if it is not empty. -/
def byteLines : List UInt8 → List (List UInt8)
  | [] => []
  | b :: bs =>
    if b = lineFeed then [] :: byteLines bs
    else match byteLines bs with
      | [] => [[b]]
      | l :: ls => (b :: l) :: ls

/-- The lines that are text, up to the first one that is not. -/
def textLines : List (List UInt8) → List String
  | [] => []
  | l :: ls =>
    match String.fromUTF8? l.toByteArray with
    | none => []
    | some text => text :: textLines ls

/-- What a player typed, a list of commands for each line. -/
def typed (input : ByteArray) : List (List Command) :=
  (textLines (byteLines input.toList)).map commands

end Gridwalk.Terminal
