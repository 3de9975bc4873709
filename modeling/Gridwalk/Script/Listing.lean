import Gridwalk.Script.Scan

/-!
# Listings

Tokens and errors of a script as lines of text.
-/

namespace Gridwalk.Script

/-- A number at the right end of a column of four characters. -/
def column (n : Nat) : String :=
  let digits := toString n
  String.ofList (List.replicate (4 - digits.length) ' ') ++ digits

/-- One line for each token, counted from zero. -/
def listing (tokens : List Token) : List String :=
  tokens.zipIdx.map fun (t, i) => column i ++ "  " ++ t.text

/-- The line of a script with a number that counts from one. The number zero means the first line
as well. -/
def sourceLine? (source : String) (line : Nat) : Option String :=
  (Text.lines source.toList)[line - 1]?.map String.ofList

/-- The message of an error and the line that it is about, if there is such a line. -/
def LexError.report (source : String) (e : LexError) : List String :=
  e.message ::
    ((sourceLine? source e.line).map fun text => column e.line ++ " | " ++ text).toList

end Gridwalk.Script
