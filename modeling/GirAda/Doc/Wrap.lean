import GirAda.Text.Blank

/-!
# Wrapping text

`wrap` breaks a text into lines of whole words, greedily: a word goes on the current line when
the line stays within the width (in bytes), and starts a new line otherwise. A word longer than
the width gets a line of its own. Blanks between words become single spaces.
-/

namespace GirAda.Doc

open GirAda.Text

/-- The lines for the words `ws`, given the current line (possibly empty). -/
def wrapWords (width : Nat) (cur : String) : List String → List String
  | [] => if cur.isEmpty then [] else [cur]
  | w :: ws =>
    if !cur.isEmpty && cur.utf8ByteSize + 1 + w.utf8ByteSize > width then
      cur :: wrapWords width w ws
    else wrapWords width (if cur.isEmpty then w else cur ++ " " ++ w) ws

/-- The lines of a text wrapped at a width in bytes. -/
def wrap (text : String) (width : Nat) : List String := wrapWords width "" (words text)

example : wrap "the quick brown fox jumps" 10 = ["the quick", "brown fox", "jumps"] := by decide

end GirAda.Doc
