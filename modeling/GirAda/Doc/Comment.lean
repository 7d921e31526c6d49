import GirAda.Doc.Wrap

/-!
# Comment blocks

Paragraphs written as an Ada comment: each line is the indent, `--`, two spaces and the text,
lines wrapped to fit 79 columns (at least 20 columns of text), and a bare `--` line between
paragraphs. Paragraphs without words are left out.
-/

namespace GirAda.Doc

/-- The longest line of generated code. -/
def maxLine : Nat := 79

/-- The width of text in a comment whose lines start with `prefixText`. -/
def commentWidth (prefixText : String) : Nat := max (maxLine - prefixText.utf8ByteSize) 20

/-- The lines of one paragraph as comment lines. -/
def commentLines (indent : String) (p : String) : String :=
  let pre := indent ++ "--  "
  String.join ((wrap p (commentWidth pre)).map fun l => pre ++ l ++ "\n")

/-- Paragraphs as a comment block at an indent, a bare `--` line between paragraphs. -/
def comment (paragraphs : List String) (indent : String) : String :=
  (indent ++ "--\n").intercalate
    ((paragraphs.map (commentLines indent)).filter fun t => !t.isEmpty)

example : comment ["First.", "Second."] "   " = "   --  First.\n   --\n   --  Second.\n" := by decide

end GirAda.Doc
