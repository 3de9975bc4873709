import Gridwalk.Script.Lexeme
import Gridwalk.Script.Trivia
import Gridwalk.Text.Lines
import Gridwalk.Log

/-!
# Scripts as tokens

A script is read as trivia, a lexeme, trivia, a lexeme and so on. Reading stops at the end of the
text or at the first lexeme that cannot be read; the tokens before it are kept.

**Lines.** Lines count from one and grow with each line feed. A fault is found on the line where
its lexeme begins; a token is noted on the line where its lexeme ends, which is a later one only
for a string with line breaks in it.
-/

namespace Gridwalk.Script

/-- A fault and the line on which it is found. -/
structure LexError where
  fault : Fault
  line : Nat
  deriving DecidableEq, Repr

def LexError.message (e : LexError) : String :=
  match e.fault with
  | .unknownToken c => s!"line {e.line}: no token starts with '{c}'"
  | .malformedNumber text => s!"line {e.line}: malformed number literal '{text}'"
  | .unterminatedString => s!"line {e.line}: unterminated string literal"

/-- A token and the line on which it ends. -/
structure Located where
  token : Token
  line : Nat
  deriving DecidableEq, Repr

/-- The tokens of a text, and what stopped the reading if anything did. -/
structure Scan where
  tokens : List Located
  stop : Option LexError
  deriving DecidableEq, Repr

/-- Reads a text that begins on a line. -/
def scan (line : Nat) (cs : List Char) : Scan :=
  match _h : spanTrivia false cs with
  | (_, []) => ⟨[], none⟩
  | (trivia, c :: rest) =>
    let start := line + Text.newlines trivia
    match _hl : readLexeme c rest with
    | .error fault => ⟨[], some ⟨fault, start⟩⟩
    | .ok l =>
      let stop := start + Text.newlines l.text
      let s := scan stop l.rest
      ⟨⟨l.token, stop⟩ :: s.tokens, s.stop⟩
termination_by cs.length
decreasing_by
  have happ := spanTrivia_append false cs
  rw [_h] at happ
  have hlt := readLexeme_rest_lt _hl
  simp only [← happ, List.length_append, List.length_cons] at hlt ⊢
  omega

/-- Reads a whole script. -/
def scanScript (source : String) : Scan := scan 1 source.toList

/-- The tokens of a script, or the first error. -/
def tokenize (source : String) : Except LexError (List Token) :=
  let s := scanScript source
  match s.stop with
  | none => .ok (s.tokens.map (·.token))
  | some e => .error e

/-- The records about the tokens of a script, those before an error included. -/
def Scan.records (s : Scan) : List LogRecord :=
  s.tokens.map fun t => ⟨.trace, s!"line {t.line}: {t.token.text}"⟩

end Gridwalk.Script
