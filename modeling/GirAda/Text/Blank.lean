/-!
# Blank characters

A character is *blank* when it has the Unicode property White_Space. Trimming a text and
splitting it into words both work with this class: the ASCII blanks, the next line and
no-break spaces, and the wide spaces of the general punctuation block.

`words` gives the maximal runs of non-blank characters, in order; `trim` drops blanks at
both ends.
-/

namespace GirAda.Text

/-- The characters with the Unicode White_Space property. -/
def isBlank (c : Char) : Bool :=
  let n := c.toNat
  (9 ≤ n && n ≤ 13) || n == 0x20 || n == 0x85 || n == 0xA0 || n == 0x1680 ||
    (0x2000 ≤ n && n ≤ 0x200A) || n == 0x2028 || n == 0x2029 || n == 0x202F ||
    n == 0x205F || n == 0x3000

/-- Every character that core counts as whitespace is blank. -/
theorem isBlank_of_isWhitespace {c : Char} (h : c.isWhitespace = true) : isBlank c = true := by
  simp only [Char.isWhitespace, Bool.or_eq_true, decide_eq_true_eq] at h
  rcases h with ((h | h) | h) | h <;> subst h <;> decide

/-- Drop the blanks at the start of a list of characters. -/
def dropBlanks (cs : List Char) : List Char := cs.dropWhile isBlank

/-- The list without blanks at either end. -/
def trimChars (cs : List Char) : List Char := (dropBlanks (dropBlanks cs).reverse).reverse

/-- The text without blanks at either end. -/
def trim (s : String) : String := String.ofList (trimChars s.toList)

/-- The words that follow a partial word `acc` (kept reversed) and the characters `cs`. -/
def wordsFrom (acc : List Char) : List Char → List (List Char)
  | [] => if acc.isEmpty then [] else [acc.reverse]
  | c :: cs =>
    if isBlank c then
      if acc.isEmpty then wordsFrom [] cs else acc.reverse :: wordsFrom [] cs
    else wordsFrom (c :: acc) cs

/-- The maximal runs of non-blank characters, in order. -/
def wordChars (cs : List Char) : List (List Char) := wordsFrom [] cs

/-- The words of a text: its maximal runs of non-blank characters, in order. -/
def words (s : String) : List String := (wordChars s.toList).map String.ofList

example : words " a　b\tc  " = ["a", "b", "c"] := by decide
example : trim "  x y \n" = "x y" := by decide

end GirAda.Text
