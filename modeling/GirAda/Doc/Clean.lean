import GirAda.Ada.Naming
import GirAda.Text.Blank
import GirAda.Text.Letter

/-!
# Cleaning documentation markup

Documentation in an introspection document uses gtk-doc markup. `clean` turns a paragraph into
plain Ada-flavoured prose, in this order: blanks at the ends are dropped and every run of blanks
becomes one space; `%TRUE`, `%FALSE` and `%NULL` (as whole words) become `True`, `False` and
`null`; a type reference `#GtkWidget` becomes `Gtk_Widget` (a capital and small letters, then
letters and digits, each part cased); a parameter reference `@label` becomes `Label`.

`cleanDoc` cleans each blank-line separated paragraph and drops the empty ones.
-/

namespace GirAda.Doc

open GirAda.Text GirAda.Ada

/-- Runs of blanks as one space; `inRun` says whether a blank came just before. -/
def collapseFrom (inRun : Bool) : List Char → List Char
  | [] => []
  | c :: cs =>
    if isBlank c then
      if inRun then collapseFrom true cs else ' ' :: collapseFrom true cs
    else c :: collapseFrom false cs

/-- Whether a word ends before these characters: they start with no word character. -/
def endsWord : List Char → Bool
  | [] => true
  | c :: _ => !isWordChar c

/-- Replace the occurrences of a marker that end a word, from the left; `skip` characters
still belong to the last marker replaced. -/
def replaceMarkerFrom (pat rep : List Char) (skip : Nat) : List Char → List Char
  | [] => []
  | c :: rest =>
    match skip with
    | s + 1 => replaceMarkerFrom pat rep s rest
    | 0 =>
      if pat ≠ [] ∧ pat.isPrefixOf (c :: rest) = true ∧ endsWord ((c :: rest).drop pat.length) = true then
        rep ++ replaceMarkerFrom pat rep (pat.length - 1) rest
      else c :: replaceMarkerFrom pat rep 0 rest

/-- Replace the occurrences of a marker that end a word, from the left. -/
def replaceMarker (pat rep : List Char) (cs : List Char) : List Char := replaceMarkerFrom pat rep 0 cs

/-- ASCII letters and digits. -/
def isAsciiAlnum (c : Char) : Bool := isAsciiUpper c || isAsciiLower c || isAsciiDigit c

/-- The lengths of the two parts of a type reference at the start of the characters after `#`:
a capital and one or more small letters, then one or more letters and digits, each part as
long as it can be while the second is not empty. -/
def typeRefAt : List Char → Option (Nat × Nat)
  | [] => none
  | u :: more =>
    if !isAsciiUpper u then none
    else
      let k := (more.takeWhile isAsciiLower).length
      if k = 0 then none
      else
        let m := ((more.drop k).takeWhile isAsciiAlnum).length
        if 0 < m then some (1 + k, m)
        else if 2 ≤ k then some (k, 1)
        else none

/-- Replace type references `#Name` by their Ada type, from the left; `skip` characters still
belong to the last reference replaced. -/
def typeRefsFrom (n : Naming) (skip : Nat) : List Char → List Char
  | [] => []
  | c :: rest =>
    match skip with
    | s + 1 => typeRefsFrom n s rest
    | 0 =>
      if c == '#' then
        match typeRefAt rest with
        | some (a, b) =>
          let first := String.ofList (rest.take a)
          let second := String.ofList ((rest.drop a).take b)
          (n.case first ++ "_" ++ n.case second).toList ++ typeRefsFrom n (a + b) rest
        | none => c :: typeRefsFrom n 0 rest
      else c :: typeRefsFrom n 0 rest

/-- Replace type references `#Name` by their Ada type, from the left. -/
def typeRefs (n : Naming) (cs : List Char) : List Char := typeRefsFrom n 0 cs

/-- Characters that may start a parameter name: small letters and the underscore. -/
def startsParam (c : Char) : Bool := isAsciiLower c || c == '_'

/-- Characters that may continue a parameter name. -/
def continuesParam (c : Char) : Bool := isAsciiLower c || isAsciiDigit c || c == '_'

/-- Replace parameter references `@name` by their Ada name, from the left. -/
def paramRefs (n : Naming) : List Char → List Char
  | [] => []
  | [c] => [c]
  | c :: d :: more =>
    if c == '@' && startsParam d then
      let name := d :: more.takeWhile continuesParam
      have : (more.dropWhile continuesParam).length < more.length + 1 + 1 := by
        have hs : more.dropWhile continuesParam <:+ more := List.dropWhile_suffix continuesParam
        have := hs.length_le
        omega
      (n.case (String.ofList name)).toList ++ paramRefs n (more.dropWhile continuesParam)
    else c :: paramRefs n (d :: more)
termination_by cs => cs.length

/-- A paragraph of gtk-doc markup as plain prose. -/
def clean (n : Naming) (text : String) : String :=
  let t := collapseFrom false (trimChars text.toList)
  let t := replaceMarker "%TRUE".toList "True".toList t
  let t := replaceMarker "%FALSE".toList "False".toList t
  let t := replaceMarker "%NULL".toList "null".toList t
  String.ofList (paramRefs n (typeRefs n t))

/-- The pieces of a text between blank lines (`\n\n`), from the left; `cur` is the piece being
read, reversed. -/
def splitFrom (cur : List Char) : List Char → List (List Char)
  | [] => [cur.reverse]
  | '\n' :: '\n' :: rest => cur.reverse :: splitFrom [] rest
  | c :: rest => splitFrom (c :: cur) rest

/-- The paragraphs of a text: its pieces between blank lines. -/
def paragraphs (text : String) : List String := (splitFrom [] text.toList).map String.ofList

/-- Each paragraph cleaned, the empty ones dropped, blank lines between them. -/
def cleanDoc (n : Naming) (text : String) : String :=
  "\n\n".intercalate (((paragraphs text).map (clean n)).filter fun p => !p.isEmpty)

end GirAda.Doc
