import GirAda.Text.Case

/-!
# Ada names

Native identifiers come in several spellings (`window-type`, `window_type`, `WindowType`); Ada
wants one (`Window_Type`). `Naming.case` splits a name into words at the separators `-`, `_`,
space and `.`, and where a capital follows a small letter or a digit; it capitalizes each word
(full Unicode case mappings), joins the words with `_`, and lets a table of exceptions replace
each word and then the whole name.

Parameters must not be Ada reserved words: `parameter` prefixes `The_` to those. Qualified
names `Ns.Local` give packages `Ns.Local` and types `Ns_Local`; unqualified names belong to the
namespace of the document.
-/

namespace GirAda.Ada

open GirAda.Text

/-- The reserved words of Ada. -/
def reservedWords : List String :=
  ["abort", "abs", "abstract", "accept", "access", "aliased", "all", "and", "array", "at",
   "begin", "body", "case", "constant", "declare", "delay", "delta", "digits", "do", "else",
   "elsif", "end", "entry", "exception", "exit", "for", "function", "generic", "goto", "if",
   "in", "interface", "is", "limited", "loop", "mod", "new", "not", "null", "of", "or",
   "others", "out", "overriding", "package", "pragma", "private", "procedure", "protected",
   "raise", "range", "record", "rem", "renames", "requeue", "return", "reverse", "select",
   "separate", "some", "subtype", "synchronized", "tagged", "task", "terminate", "then", "type",
   "until", "use", "when", "while", "with", "xor"]

/-- Whether a name is an Ada reserved word, ignoring ASCII case. -/
def isReserved (name : String) : Bool := reservedWords.contains (asciiLower name)

/-- The characters that separate words in native names. -/
def isSeparator (c : Char) : Bool := c == '-' || c == '_' || c == ' ' || c == '.'

/-- Whether a capital `c` after the character `prev` starts a new word: it does after a small
letter or an ASCII digit. -/
def startsWord (prev : Option Char) (c : Char) : Bool :=
  isUpper c && match prev with
    | some p => isLower p || isAsciiDigit p
    | none => false

/-- The words of `cs`, given the word being read (reversed) and the character before `cs`. -/
def wordsFrom (prev : Option Char) (cur : List Char) : List Char → List (List Char)
  | [] => if cur.isEmpty then [] else [cur.reverse]
  | c :: cs =>
    if isSeparator c then
      if cur.isEmpty then wordsFrom (some c) [] cs else cur.reverse :: wordsFrom (some c) [] cs
    else if startsWord prev c && !cur.isEmpty then cur.reverse :: wordsFrom (some c) [c] cs
    else wordsFrom (some c) (c :: cur) cs

/-- The words of a native name. -/
def splitWords (name : String) : List String := (wordsFrom none [] name.toList).map String.ofList

/-- A word with its first character in upper case and the others in lower case. -/
def capitalize (w : String) : String :=
  match w.toList with
  | [] => ""
  | c :: cs => String.ofList (upperCase c ++ cs.flatMap lowerCase)

/-- Upper-case each character that does not follow an alphabetic one, lower-case the others. -/
def titleFrom (prevAlpha : Bool) : List Char → List Char
  | [] => []
  | c :: cs => (if prevAlpha then lowerCase c else upperCase c) ++ titleFrom (isAlphabetic c) cs

/-- The short names of native functions, each letter after a non-letter in upper case. -/
def title (name : String) : String := String.ofList (titleFrom false name.toList)

/-- The final name: a rename wins over a derived name, which wins over a synthesized one. -/
def resolveName (rename derived : Option String) (synthesized : String) : String :=
  match rename, derived with
  | some r, _ => r
  | none, some d => d
  | none, none => synthesized

/-- The namespace of a document and the exceptions to casing, later ones first. -/
structure Naming where
  space : String
  exceptions : List (String × String)
  deriving Inhabited

namespace Naming

/-- Casing for a namespace, without exceptions. -/
def new (space : String) : Naming := ⟨space, []⟩

/-- Add exceptions; of two for the same name, the later one counts. -/
def withExceptions (n : Naming) (es : List (String × String)) : Naming :=
  ⟨n.space, es.reverse ++ n.exceptions⟩

/-- The exception for a name, or the name itself. -/
def except (n : Naming) (s : String) : String :=
  match n.exceptions.find? (·.1 == s) with
  | some (_, t) => t
  | none => s

/-- The Ada spelling of a native name: capitalized words, each and then the whole name
replaced by its exception if there is one, joined by `_`. -/
def case (n : Naming) (name : String) : String :=
  n.except ("_".intercalate ((splitWords name).map fun w => n.except (capitalize w)))

/-- A parameter name: the Ada spelling, prefixed with `The_` when it is a reserved word. -/
def parameter (n : Naming) (name : String) : String :=
  let c := n.case name
  if isReserved c then "The_" ++ c else c

/-- A qualified name split at its last `.`; an unqualified one belongs to the namespace. -/
def qualify (n : Naming) (name : String) : String × String :=
  let cs := name.toList
  match (cs.reverse.span (· != '.')) with
  | (l, _ :: q) => (String.ofList q.reverse, String.ofList l.reverse)
  | (_, []) => (n.space, name)

/-- The Ada package of a type, e.g. `Gtk.Widget`. -/
def packageName (n : Naming) (name : String) : String :=
  let (ns, l) := n.qualify name
  n.case ns ++ "." ++ n.case l

/-- The Ada type of a type, e.g. `Gtk_Widget`. -/
def typeName (n : Naming) (name : String) : String :=
  let (ns, l) := n.qualify name
  n.case ns ++ "_" ++ n.case l

end Naming

/-- The names that a class gives: its package, its access type and its record type. -/
structure ClassNames where
  package : String
  typeName : String
  record : String
  deriving DecidableEq, Repr, Inhabited

/-- The names of the class of a native name. -/
def ClassNames.of (n : Naming) (cls : String) : ClassNames :=
  let t := n.typeName cls
  ⟨n.packageName cls, t, t ++ "_Record"⟩

example : (Naming.new "Gtk").case "WindowType" = "Window_Type" := by decide
example : (Naming.new "Gtk").parameter "type" = "The_Type" := by decide

end GirAda.Ada
