import Gridwalk.Text.Blank

/-!
# Trivia

Between the tokens of a script stand blanks and comments. A comment runs from `#` to the end of
its line; the line feed, a blank, is not part of it.
-/

namespace Gridwalk.Script

/-- Splits a text behind the trivia at its head. `inComment` tells whether a comment is open. -/
def spanTrivia (inComment : Bool) : List Char → List Char × List Char
  | [] => ([], [])
  | c :: cs =>
    if inComment || Text.isBlank c || c == '#' then
      let (trivia, rest) := spanTrivia (c != '\n' && (inComment || c == '#')) cs
      (c :: trivia, rest)
    else ([], c :: cs)

theorem spanTrivia_append (inComment : Bool) (cs : List Char) :
    (spanTrivia inComment cs).1 ++ (spanTrivia inComment cs).2 = cs := by
  induction cs generalizing inComment with
  | nil => rfl
  | cons c cs ih =>
    unfold spanTrivia
    split
    · simp [ih]
    · rfl

end Gridwalk.Script
