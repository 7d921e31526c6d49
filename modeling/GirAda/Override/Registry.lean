import GirAda.Gir.LoadError
import GirAda.Xml.Parse
import GirAda.Text.Blank
import GirAda.Text.Case

/-!
# The override registry

Hand-kept corrections to an introspection document, looked up by native identifier: per
method, whether to bind it, an Ada name for it and default values for its parameters; per
package, another package to merge it into and its documentation; per type, whether its Ada type
is a subtype of its parent's or a new type.

The registry is read from a document with root `<GIR>` (in no namespace) holding `<package>`
elements, which hold `<type>` and `<method>` elements. A later entry with the same identifier
replaces an earlier one, wherever it stands.
-/

namespace GirAda.Override

open GirAda.Xml GirAda.Text

/-- Corrections for one method. -/
structure MethodOverride where
  adaName : Option String := none
  bind : Option Bool := none
  defaults : List (String × String) := []
  deriving DecidableEq, Repr, Inhabited

/-- Corrections for one package. -/
structure PackageOverride where
  into : Option String := none
  doc : Option String := none
  deriving DecidableEq, Repr, Inhabited

/-- How a class's Ada type is declared: a new type derived from its parent's, or a subtype. -/
inductive TypeKind where
  | newType
  | subtype
  deriving DecidableEq, Repr, Inhabited

/-- The corrections, each list latest entry first. -/
structure Registry where
  methods : List (String × MethodOverride) := []
  packages : List (String × PackageOverride) := []
  types : List (String × TypeKind) := []
  deriving Inhabited

/-- The latest value under a key of a list kept latest first. -/
def latest {α : Type} (es : List (String × α)) (k : String) : Option α :=
  (es.find? (·.1 == k)).map Prod.snd

namespace Registry

/-- The registry without corrections. -/
def empty : Registry := {}

/-- Add corrections for a method, replacing earlier ones. -/
def addMethod (r : Registry) (id : String) (m : MethodOverride) : Registry :=
  { r with methods := (id, m) :: r.methods }

/-- Add corrections for a package, replacing earlier ones. -/
def addPackage (r : Registry) (id : String) (p : PackageOverride) : Registry :=
  { r with packages := (id, p) :: r.packages }

/-- Say how a type is declared, replacing an earlier word on it. -/
def addType (r : Registry) (id : String) (k : TypeKind) : Registry :=
  { r with types := (id, k) :: r.types }

/-- Whether to bind a native identifier; absent entries are bound. -/
def bind (r : Registry) (id : String) : Bool :=
  ((latest r.methods id).bind MethodOverride.bind).getD true

/-- The Ada name given to a native identifier. -/
def adaName (r : Registry) (id : String) : Option String :=
  (latest r.methods id).bind MethodOverride.adaName

/-- The default value of a parameter of a native identifier: the first one given. -/
def defaultFor (r : Registry) (id param : String) : Option String :=
  (latest r.methods id).bind fun m => (m.defaults.find? (·.1 == param)).map Prod.snd

/-- The package that a package is merged into. -/
def mergeInto (r : Registry) (pkg : String) : Option String :=
  (latest r.packages pkg).bind PackageOverride.into

/-- How a type is declared; absent entries are new types. -/
def typeKind (r : Registry) (id : String) : TypeKind := (latest r.types id).getD .newType

/-- The documentation of a package. -/
def packageDoc (r : Registry) (pkg : String) : Option String :=
  (latest r.packages pkg).bind PackageOverride.doc

end Registry

/-- A flag is false when, trimmed and in ASCII lower case, it reads `false`, `0` or `no`. -/
def readFlag (v : String) : Bool :=
  let w := asciiLower (trim v)
  !(w == "false" || w == "0" || w == "no")

/-- The attribute `id` of an element, which it must carry. -/
def requiredAttr (e : Element) (k : String) : Except ParseError String :=
  match e.get? (XName.plain k) with
  | some v => .ok v
  | none => .error (.missingAttribute e.localName k)

/-- The defaults given by the `<parameter>` children that carry a `default`. -/
def readDefaults : List Element → Except ParseError (List (String × String))
  | [] => .ok []
  | p :: ps =>
    match p.get? (XName.plain "default") with
    | none => readDefaults ps
    | some d => do
      let name ← requiredAttr p "name"
      let rest ← readDefaults ps
      return (name, d) :: rest

/-- The corrections that a `<method>` element gives. -/
def MethodOverride.ofElement (e : Element) : Except ParseError MethodOverride := do
  let defaults ← readDefaults (e.findAll (XName.plain "parameter"))
  return {
    defaults
    adaName := e.get? (XName.plain "ada")
    bind := (e.get? (XName.plain "bind")).map readFlag }

/-- Add the word of a `<type>` element on how its type is declared. -/
def Registry.addTypeElement (r : Registry) (t : Element) : Except ParseError Registry := do
  let kind : TypeKind :=
    if ((t.get? (XName.plain "subtype")).map readFlag).getD false then .subtype else .newType
  let tid ← requiredAttr t "id"
  return r.addType tid kind

/-- Add the corrections of a `<method>` element. -/
def Registry.addMethodElement (r : Registry) (m : Element) : Except ParseError Registry := do
  let mid ← requiredAttr m "id"
  let mo ← MethodOverride.ofElement m
  return r.addMethod mid mo

/-- Add the corrections of one `<package>` element: the package, then its types, then its
methods. -/
def Registry.addElement (r : Registry) (pkg : Element) : Except ParseError Registry := do
  let id ← requiredAttr pkg "id"
  let r := r.addPackage id
    { into := pkg.get? (XName.plain "into"), doc := pkg.findText? (XName.plain "doc") }
  let r ← (pkg.findAll (XName.plain "type")).foldlM addTypeElement r
  (pkg.findAll (XName.plain "method")).foldlM addMethodElement r

/-- The registry described by the root element of a document. -/
def Registry.ofElement (root : Element) : Except ParseError Registry := do
  if !root.is (XName.plain "GIR") then throw (.unexpectedRoot "GIR" root.localName)
  (root.findAll (XName.plain "package")).foldlM Registry.addElement Registry.empty

/-- The registry written in a text. -/
def Registry.parse (s : String) : Except ParseError Registry :=
  Element.parse s >>= Registry.ofElement

/-- The registry in a file at `path`, given what reading the file gave. -/
def Registry.ofFile (path : String) (contents : Except FileFault String) :
    Except Gir.LoadError Registry :=
  match contents with
  | .error f => .error (.failedToRead path f)
  | .ok s =>
    match Registry.parse s with
    | .ok r => .ok r
    | .error e => .error (.failedToParseFile path e)

end GirAda.Override
