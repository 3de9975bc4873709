import Gridwalk.Number.Shortest
import Gridwalk.Text.Quoted

/-!
# Tokens

A script is a sequence of tokens. A token has a kind and, for words, operators and literals, a
value. Punctuation has no value.
-/

namespace Gridwalk.Script

inductive TokenKind where
  | nop
  | keyword
  | reference
  | semicolon
  | indent
  | deindent
  | assign
  | openParen
  | closeParen
  | comma
  | operator
  | stringLit
  | intLit
  | floatLit
  deriving DecidableEq, Repr

namespace TokenKind

def all : List TokenKind :=
  [nop, keyword, reference, semicolon, indent, deindent, assign, openParen, closeParen, comma,
    operator, stringLit, intLit, floatLit]

def name : TokenKind → String
  | nop => "NOP"
  | keyword => "KEYWORD"
  | reference => "REFERENCE"
  | semicolon => "SEMICOLON"
  | indent => "INDENT"
  | deindent => "DEINDENT"
  | assign => "ASSIGN"
  | openParen => "OPEN_PAREN"
  | closeParen => "CLOSE_PAREN"
  | comma => "COMMA"
  | operator => "OPERATOR"
  | stringLit => "STRING_LIT"
  | intLit => "INT_LIT"
  | floatLit => "FLOAT_LIT"

def ofName? (s : String) : Option TokenKind := all.find? (·.name == s)

end TokenKind

/-- What a token carries. -/
inductive Value where
  | none
  | str (s : String)
  | int (n : Int)
  | float (x : Double)
  | ident (s : String)
  deriving DecidableEq, Repr

/-- The text of a value: strings are quoted, words are not. -/
def Value.text : Value → String
  | none => "None"
  | str s => String.ofList (Text.quote s.toList)
  | int n => toString n
  | float x => x.write Double.scriptNotation
  | ident s => s

structure Token where
  kind : TokenKind
  value : Value
  deriving DecidableEq, Repr

namespace Token

/-- A token without a value. -/
def bare (kind : TokenKind) : Token := ⟨kind, .none⟩

/-- The text of a token: its kind, and its value if it has one. -/
def text (t : Token) : String :=
  match t.value with
  | .none => s!"Token({t.kind.name})"
  | v => s!"Token({t.kind.name}, {v.text})"

end Token

/-! ## Fixed spellings -/

/-- The words that are not free for use as names. -/
def keywords : List String := ["const", "var", "return", "exit"]

/-- A word is a keyword or refers to something. -/
def wordToken (text : String) : Token :=
  ⟨if keywords.contains text then .keyword else .reference, .ident text⟩

/-- The operators, those of two characters first, so that the longest one that fits is found
first. -/
def operators : List (List Char) :=
  [['*', '*'], ['/', '/'], ['=', '='], ['!', '='], ['<', '='], ['>', '='],
    ['+'], ['-'], ['*'], ['/'], ['%'], ['<'], ['>']]

/-- The kind of a character of punctuation. -/
def punctuation? : Char → Option TokenKind
  | '{' => some .indent
  | '}' => some .deindent
  | '=' => some .assign
  | '(' => some .openParen
  | ')' => some .closeParen
  | ';' => some .semicolon
  | ',' => some .comma
  | _ => none

end Gridwalk.Script
