/-!
# Lines of a text

A line ends at a line feed, or at a carriage return and a line feed; the break belongs to no
line. What follows the last break is a line only if it is not empty. A carriage return on its own
is an ordinary character.
-/

namespace Gridwalk.Text

/-- The lines of a text, without their breaks. -/
def lines : List Char → List (List Char)
  | [] => []
  | c :: cs =>
    if c = '\n' then [] :: lines cs
    else if c = '\r' ∧ cs.head? = some '\n' then lines cs
    else match lines cs with
      | [] => [[c]]
      | l :: ls => (c :: l) :: ls

/-- The number of line feeds in a text. -/
def newlines (cs : List Char) : Nat := cs.count '\n'

end Gridwalk.Text
