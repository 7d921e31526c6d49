/-!
# Replacing text

`replaceAll s pat rep` replaces every occurrence of a non-empty pattern, scanning from the left
and taking occurrences that do not overlap. With an empty pattern the text is kept.
`occurrences s pat` counts the occurrences that `replaceAll` replaces.
-/

namespace GirAda.Text

/-- Replace the occurrences of `pat` in a list by `rep`, from the left, without overlaps;
`skip` characters still belong to the last occurrence replaced. -/
def replaceFrom (pat rep : List Char) (skip : Nat) : List Char → List Char
  | [] => []
  | c :: rest =>
    match skip with
    | s + 1 => replaceFrom pat rep s rest
    | 0 =>
      if pat ≠ [] ∧ pat.isPrefixOf (c :: rest) = true then rep ++ replaceFrom pat rep (pat.length - 1) rest
      else c :: replaceFrom pat rep 0 rest

/-- Replace the occurrences of `pat` in a list by `rep`, from the left, without overlaps. -/
def replaceChars (pat rep : List Char) (cs : List Char) : List Char := replaceFrom pat rep 0 cs

/-- The number of occurrences of `pat` in a list, from the left, without overlaps; `skip`
characters still belong to the last occurrence counted. -/
def countFrom (pat : List Char) (skip : Nat) : List Char → Nat
  | [] => 0
  | c :: rest =>
    match skip with
    | s + 1 => countFrom pat s rest
    | 0 =>
      if pat ≠ [] ∧ pat.isPrefixOf (c :: rest) = true then countFrom pat (pat.length - 1) rest + 1
      else countFrom pat 0 rest

/-- The number of occurrences of `pat` in a list, from the left, without overlaps. -/
def countChars (pat : List Char) (cs : List Char) : Nat := countFrom pat 0 cs

/-- The number of occurrences of a non-empty pattern, from the left, without overlaps. -/
def occurrences (s pat : String) : Nat := countChars pat.toList s.toList

/-- Replace every occurrence of a non-empty pattern, from the left, without overlaps. -/
def replaceAll (s pat rep : String) : String :=
  String.ofList (replaceChars pat.toList rep.toList s.toList)

end GirAda.Text
