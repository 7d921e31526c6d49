import GirAda.Gir.Class
import GirAda.Gir.Index
import GirAda.Gir.LoadError
import GirAda.Xml.Parse

/-!
# Repositories

A loaded introspection document: the name of its first namespace, its classes indexed by name
in document order (a repeated name keeps its first place and takes the later class), and the
names of its enumerations and bitfields.

The root must be the core `<repository>` and hold a core `<namespace>` with a name; every class,
member and parameter read must carry a name.
-/

namespace GirAda.Gir

open GirAda.Xml

/-- A loaded introspection document. -/
structure Repository where
  space : String
  classes : Index GirClass
  enumerations : List String
  deriving Inhabited

namespace Repository

/-- Read the classes in order into the index. -/
def indexClasses (acc : Index GirClass) : List Element → Except ParseError (Index GirClass)
  | [] => .ok acc
  | node :: rest => do
    let c ← GirClass.ofElement node
    indexClasses (acc.insert c.name c) rest

/-- The repository described by the root element of a document. -/
def ofElement (root : Element) : Except ParseError Repository := do
  if !root.is (core "repository") then
    throw (.unexpectedRoot "repository" root.localName)
  let some ns := root.find? (core "namespace") | throw .missingNamespace
  let space ← required ns (XName.plain "name")
  let classes ← indexClasses Index.empty (ns.findAll (core "class"))
  let enumerations :=
    (ns.findAll (core "enumeration") ++ ns.findAll (core "bitfield")).filterMap
      (·.get? (XName.plain "name"))
  return ⟨space, classes, enumerations⟩

/-- The repository written in a text. -/
def parse (s : String) : Except LoadError Repository :=
  match Element.parse s >>= ofElement with
  | .ok r => .ok r
  | .error e => .error (.parse e)

/-- The repository in a file at `path`, given what reading the file gave. -/
def ofFile (path : String) (contents : Except FileFault String) : Except LoadError Repository :=
  match contents with
  | .error f => .error (.failedToRead path f)
  | .ok s =>
    match Element.parse s >>= ofElement with
    | .ok r => .ok r
    | .error e => .error (.failedToParseFile path e)

/-- The class of a name. -/
def getClass (r : Repository) (name : String) : Except LoadError GirClass :=
  match r.classes.get? name with
  | some c => .ok c
  | none => .error (.classNotFound name r.space)

/-- Whether a class of that name exists. -/
def isClass (r : Repository) (name : String) : Bool := r.classes.contains name

/-- Whether an enumeration or bitfield of that name exists. -/
def isEnumeration (r : Repository) (name : String) : Bool := r.enumerations.contains name

/-- The number of distinct class names. -/
def numClasses (r : Repository) : Nat := r.classes.size

end Repository

end GirAda.Gir
