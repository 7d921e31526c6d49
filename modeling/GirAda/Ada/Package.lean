import GirAda.Ada.Render
import GirAda.Doc.Clean
import GirAda.Doc.Comment

/-!
# Packages

What a run accumulates for one Ada package: its `with` clauses, its documentation, the sections
of its public part, its private part and its body.

The `with` clauses form a set, written in sorted order; the package itself and its ancestors
are never named there. The public part lists its sections in a fixed order: types (the section
without a name), constructors, methods, properties, signals, and then any other section in the
order it was first asked for. Empty sections are left out, and a nonempty named section opens
with a boxed heading.
-/

namespace GirAda.Ada

/-- The sections of a public part that have a fixed place, in that order. -/
def sectionOrder : List String := ["", "Constructors", "Methods", "Properties", "Signals"]

/-- Where a section goes: its place among the fixed sections, after all of them otherwise. -/
def sectionRank (name : String) : Nat := sectionOrder.idxOf name

/-- A text that ends a line: a newline is added unless it already ends with one. -/
def lineEnded (text : String) : String := if text.endsWith "\n" then text else text ++ "\n"

/-- A named group of declarations in a public part, its blocks in the order they were added. -/
structure Section where
  name : String
  blocks : List String
  deriving Repr, Inhabited

namespace Section

/-- Add a block of text at the end. -/
def add (s : Section) (text : String) : Section := { s with blocks := s.blocks ++ [text] }

/-- Whether no block was added. -/
def isEmpty (s : Section) : Bool := s.blocks.isEmpty

/-- The heading of a named section: its name boxed in dashes, then a blank line. -/
def heading (name : String) : String :=
  if name.isEmpty then ""
  else
    let rule := indentStep ++ String.ofList (List.replicate (name.utf8ByteSize + 6) '-') ++ "\n"
    rule ++ indentStep ++ "-- " ++ name ++ " --\n" ++ rule ++ "\n"

/-- The text of a section: its heading, then each block ending a line and followed by a blank
line. -/
def render (s : Section) : String :=
  heading s.name ++ String.join (s.blocks.map fun b => lineEnded b ++ "\n")

end Section

/-- A text inserted into a sorted list of distinct texts, unless it is there already. -/
def insertSorted (x : String) : List String → List String
  | [] => [x]
  | y :: ys => if x < y then x :: y :: ys else if x = y then y :: ys else y :: insertSorted x ys

/-- A section placed before the first section that goes after it. -/
def placeSection (s : Section) : List Section → List Section
  | [] => [s]
  | t :: ts => if sectionRank s.name < sectionRank t.name then s :: t :: ts else t :: placeSection s ts

/-- Everything generated for one Ada package, possibly from several classes. -/
structure Package where
  name : String
  doc : Option String
  withs : List String
  sections : List Section
  privateDecls : List String
  bodyDecls : List String
  deriving Repr, Inhabited

namespace Package

/-- An empty package of a name. -/
def new (name : String) : Package := ⟨name, none, [], [], [], []⟩

/-- Set the documentation, whose paragraphs are separated by blank lines. -/
def setDoc (p : Package) (doc : String) : Package := { p with doc := some doc }

/-- Whether a package name is this package or one of its ancestors, which are visible already. -/
def isAncestor (p : Package) (other : String) : Bool :=
  p.name == other || p.name.startsWith (other ++ ".")

/-- Add a `with` clause; an empty name, the package itself and its ancestors are ignored. -/
def addWith (p : Package) (other : String) : Package :=
  if other.isEmpty || p.isAncestor other then p else { p with withs := insertSorted other p.withs }

/-- Make sure a section of a name exists, placing a new one by its rank. -/
def openSection (p : Package) (name : String) : Package :=
  if p.sections.any (·.name == name) then p
  else { p with sections := placeSection ⟨name, []⟩ p.sections }

/-- Add a block to a section, opening it if needed. -/
def addTo (p : Package) (name text : String) : Package :=
  let p := p.openSection name
  { p with sections := p.sections.map fun s => if s.name == name then s.add text else s }

/-- Add a block to the private part. -/
def addPrivate (p : Package) (text : String) : Package :=
  { p with privateDecls := p.privateDecls ++ [text] }

/-- Add a block to the body. -/
def addBody (p : Package) (text : String) : Package := { p with bodyDecls := p.bodyDecls ++ [text] }

/-- The `with` clauses, each with its `use` clause, and a blank line after them if any. -/
def withText (p : Package) : String :=
  if p.withs.isEmpty then ""
  else String.join (p.withs.map fun w => "with " ++ w ++ "; use " ++ w ++ ";\n") ++ "\n"

/-- The documentation as a comment block at the left margin, and a blank line. -/
def docText (p : Package) : String :=
  match p.doc with
  | some d => Doc.comment (Doc.paragraphs d) "" ++ "\n"
  | none => ""

/-- The private part, if it has any declarations. -/
def privateText (p : Package) : String :=
  if p.privateDecls.isEmpty then "" else "private\n" ++ String.join (p.privateDecls.map lineEnded)

/-- The package specification. -/
def specText (p : Package) : String :=
  p.withText ++ "package " ++ p.name ++ " is\n\n" ++ p.docText ++
    String.join ((p.sections.filter fun s => !s.isEmpty).map Section.render) ++
    p.privateText ++ "end " ++ p.name ++ ";\n"

/-- The package body, if anything needs one. -/
def bodyText (p : Package) : Option String :=
  if p.bodyDecls.isEmpty then none
  else
    some ("package body " ++ p.name ++ " is\n\n" ++
      String.join (p.bodyDecls.map fun b => lineEnded b ++ "\n") ++ "end " ++ p.name ++ ";\n")

end Package

example : sectionRank "Methods" = 2 ∧ sectionRank "Extra" = 5 := by decide

end GirAda.Ada
