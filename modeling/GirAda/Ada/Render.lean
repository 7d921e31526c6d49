import GirAda.Ada.Subprogram
import GirAda.Doc.Clean
import GirAda.Doc.Comment
import GirAda.Text.Bytes
import GirAda.Text.Lines

/-!
# Writing subprograms

The text of subprograms. A profile stays on one line when that line, with room for its
terminator, fits in 79 columns; otherwise each parameter goes on a line of its own, names padded
so that the colons align. A declaration lists the profiles of a group of subprograms (each imported
one with its import pragma) and then the group's documentation; a body declares the
nested subprograms and locals, then runs the statements.
-/

namespace GirAda.Ada

open GirAda.Text GirAda.Doc

/-- The indent of one nesting level. -/
def indentStep : String := "   "

/-- A text padded with spaces to a width in characters. -/
def padRight (s : String) (width : Nat) : String := s ++ spaces (width - s.length)

/-- A parameter line of a profile laid out on several lines. -/
def paramLine (width : Nat) (p : AdaParam) : String :=
  padRight p.name width ++ " : " ++ p.mode.keyword ++ p.ty ++
    match p.default with
    | some d => " := " ++ d
    | none => ""

/-- The opening of a profile: the keyword and the name. -/
def profileHead (s : Subprogram) (indent : String) : String :=
  indent ++ (if s.isFunction then "function" else "procedure") ++ " " ++ s.name

/-- The return clause of a profile, empty for a procedure. -/
def returnsClause (s : Subprogram) : String := (s.returns.map (" return " ++ ·)).getD ""

/-- The profile on one line, with its parameters in parentheses. -/
def singleProfile (s : Subprogram) (indent : String) : String :=
  profileHead s indent ++ " (" ++ "; ".intercalate (s.parameters.map AdaParam.render) ++ ")" ++
    returnsClause s

/-- The one-line form of a profile: without parentheses when there are no parameters. -/
def lineProfile (s : Subprogram) (indent : String) : String :=
  if s.parameters.isEmpty then profileHead s indent ++ returnsClause s else singleProfile s indent

/-- The widest parameter name, in bytes. -/
def nameWidth (ps : List AdaParam) : Nat := (ps.map (·.name.utf8ByteSize)).foldl max 0

/-- The profile with each parameter on a line of its own, names padded to the widest. -/
def multiProfile (s : Subprogram) (indent : String) : String :=
  let params := (";\n" ++ indent ++ "    ").intercalate
    (s.parameters.map (paramLine (nameWidth s.parameters)))
  profileHead s indent ++ "\n" ++ indent ++ "   (" ++ params ++ ")" ++ returnsClause s

/-- Whether a profile stays on one line: it has no parameters, or the line with room for its
terminator fits. -/
def fitsOnLine (s : Subprogram) (indent : String) : Bool :=
  s.parameters.isEmpty || (singleProfile s indent).utf8ByteSize + 3 ≤ Doc.maxLine

/-- The profile of a subprogram, without its terminator. -/
def profile (s : Subprogram) (indent : String) : String :=
  if fitsOnLine s indent then lineProfile s indent else multiProfile s indent

/-- Documentation paragraphs, cleaned, as a comment block. -/
def docComment (n : Naming) (paragraphs : List String) (indent : String) : String :=
  comment (paragraphs.map (clean n)) indent

/-- The import of an imported subprogram. -/
def importLine (s : Subprogram) (indent : String) : String :=
  match s.body with
  | .imported sym => indent ++ "pragma Import (C, " ++ s.name ++ ", \"" ++ sym ++ "\");\n"
  | _ => ""

/-- The declarations of a group of subprograms, then the documentation of the first one that
has some. -/
def declaration (n : Naming) (group : List Subprogram) (indent : String) : String :=
  String.join (group.map fun s => profile s indent ++ ";\n" ++ importLine s indent) ++
    match group.find? (fun s => !s.doc.isEmpty) with
    | some s => docComment n s.doc indent
    | none => ""

/-- The body of a subprogram with code of its own. -/
def body (n : Naming) (s : Subprogram) (indent : String) : Option String :=
  match s.body with
  | .code nested locals statements =>
    let inner := indent ++ indentStep
    some (profile s indent ++ " is\n" ++
      String.join (nested.map fun x => declaration n [x] inner) ++
      String.join (locals.map fun l => inner ++ l ++ "\n") ++
      indent ++ "begin\n" ++
      String.join (statements.map fun t => inner ++ t ++ "\n") ++
      indent ++ "end " ++ s.name ++ ";\n")
  | _ => none

/-- The profile of a subprogram as a comment, e.g. the handler a signal expects. -/
def commentedProfile (s : Subprogram) (indent : String) : String :=
  String.join ((lines (profile s "" ++ ";")).map fun l => indent ++ "--  " ++ l ++ "\n")

end GirAda.Ada
