/-!
# Lines of a text

The lines of a text end at a line feed, which is not part of the line, nor is a carriage
return just before it. The last line needs no line feed, and a text ending in one has no empty
last line.
-/

namespace GirAda.Text

/-- A line without the carriage return that ended it, if any. -/
def dropReturn (line : List Char) : List Char :=
  match line.reverse with
  | '\r' :: l => l.reverse
  | _ => line

/-- The lines of `cs`, given the line being read (reversed). -/
def linesFrom (cur : List Char) : List Char → List (List Char)
  | [] => if cur.isEmpty then [] else [cur.reverse]
  | '\n' :: cs => dropReturn cur.reverse :: linesFrom [] cs
  | c :: cs => linesFrom (c :: cur) cs

/-- The lines of a text. -/
def lines (s : String) : List String := (linesFrom [] s.toList).map String.ofList

example : lines "a\r\nb\n" = ["a", "b"] := by decide
example : lines "a\rb" = ["a\rb"] := by decide

end GirAda.Text
