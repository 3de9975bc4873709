import Gridwalk.Text.Extender
import Gridwalk.Text.Unprintable

/-!
# Quoted text

A quoted text stands between double quotes on one line. Quotes, backslashes, tabs, line breaks
and the null character are written by a backslash and a sign; every other character that cannot
be told from its print, because it is not printable or attaches to its neighbour, is written by
its code in hexadecimal. All else, printable letters beyond ASCII included, stands for itself.
-/

namespace Gridwalk.Text

/-- The character is written by its code: it attaches to its neighbour or has no print. -/
def needsCode (c : Char) : Bool :=
  if c.toNat < 0x80 then c.toNat < 0x20 || c.toNat == 0x7F else isExtender c || isUnprintable c

/-- The written form of one character. -/
def quoteChar (c : Char) : List Char :=
  match c with
  | '\x00' => ['\\', '0']
  | '\t' => ['\\', 't']
  | '\r' => ['\\', 'r']
  | '\n' => ['\\', 'n']
  | '"' => ['\\', '"']
  | '\\' => ['\\', '\\']
  | c => if needsCode c then '\\' :: 'u' :: '{' :: (Nat.toDigits 16 c.toNat ++ ['}']) else [c]

/-- The written form of a text. -/
def quote (cs : List Char) : List Char :=
  '"' :: (cs.flatMap quoteChar ++ ['"'])

end Gridwalk.Text
