import GirAda.Ada.Lowering
import GirAda.Ada.Property
import GirAda.Ada.Package
import GirAda.Ada.Render

/-!
# What a class contributes to its package

A class fills its package in a fixed order: the documentation, the type declaration (a new
record type extending the parent's, or subtypes of the parent's when the overrides say so), the
constructors and the type function, the methods, the properties (a commented listing, the
constants, and their definitions in the private part) and the signals (sorted by name: the name
constant, the handler profile as a comment, the documentation).

Whatever cannot be bound is left out and reported as a `Diagnostic`, in the order it was met:
constructors, type function, methods, properties, then signals. The `with` clauses collect every
package the declarations refer to.
-/

namespace GirAda

open GirAda.Gir GirAda.Ada GirAda.Override GirAda.Doc

/-- A construct that was left out of the output, and why. -/
structure Diagnostic where
  /-- The native identifier: a C symbol, or `Type:property`, or `Type::signal`. -/
  identifier : String
  reason : Skip
  deriving DecidableEq, Repr, Inhabited

/-- The report line of a diagnostic. -/
def Diagnostic.display (d : Diagnostic) : String :=
  "Skipping " ++ d.identifier ++ ": " ++ d.reason.message

/-- A package being filled by one class, and what was left out so far. -/
structure Draft where
  package : Package
  diagnostics : List Diagnostic
  deriving Inhabited

namespace Draft

/-- Report a construct as left out. -/
def skip (d : Draft) (identifier : String) (reason : Skip) : Draft :=
  { d with diagnostics := d.diagnostics ++ [⟨identifier, reason⟩] }

/-- Change the package. -/
def edit (d : Draft) (f : Package → Package) : Draft := { d with package := f d.package }

end Draft

/-- What generating classes needs: signatures (with their resolver and overrides) and the
property types. -/
structure Generator where
  builder : SignatureBuilder
  propertyTypes : PropertyTypes
  deriving Inhabited

namespace Generator

/-- The type every class without a parent extends. -/
def rootType : String := "Glib.Object.GObject"

/-- The naming in use. -/
def naming (g : Generator) : Naming := g.builder.naming

/-- The overrides in use. -/
def overrides (g : Generator) : Registry := g.builder.overrides

/-- The type resolver in use. -/
def resolver (g : Generator) : Resolver := g.builder.resolver

/-- The `with` clauses a signature needs. -/
def addWiths (p : Package) (s : Signature) : Package := s.packages.foldl Package.addWith p

/-- The bodies of those subprograms that have one. -/
def addBodies (n : Naming) (p : Package) (subs : List Subprogram) : Package :=
  (subs.filterMap fun s => body n s indentStep).foldl Package.addBody p

/-- The package and the type of a class's parent; the root type for a class without one. -/
def parentOf (g : Generator) (c : GirClass) : String × String :=
  match c.parent with
  | some parent =>
    let parentNames := ClassNames.of g.naming parent
    (parentNames.package, parentNames.typeName)
  | none => ("Glib.Object", rootType)

/-- The declaration of the class's record type and access type, extending a parent type: subtypes
of the parent's when the overrides say so. -/
def typeText (g : Generator) (names : ClassNames) (parentType : String) : String :=
  match g.overrides.typeKind names.typeName with
  | .subtype =>
    indentStep ++ "subtype " ++ names.record ++ " is " ++ parentType ++ "_Record;\n" ++
      indentStep ++ "subtype " ++ names.typeName ++ " is " ++ parentType ++ ";\n"
  | .newType =>
    indentStep ++ "type " ++ names.record ++ " is new " ++ parentType ++
      "_Record with null record;\n" ++
      indentStep ++ "type " ++ names.typeName ++ " is access all " ++ names.record ++ "'Class;\n"

/-- The declaration of the class's record type and access type, after a `with` clause for the
parent's package. -/
def typeDeclaration (g : Generator) (c : GirClass) (names : ClassNames) (p : Package) : Package :=
  let (parentPackage, parentType) := g.parentOf c
  (p.addWith parentPackage).addTo "" (g.typeText names parentType)

/-- One constructor: its allocating procedure and initializer, or a diagnostic. -/
def addConstructor (g : Generator) (names : ClassNames) (d : Draft) (ctor : Callable) : Draft :=
  match g.builder.build ctor with
  | .error k => d.skip ctor.identifier k
  | .ok s =>
    let subs := g.builder.constructor names s
    d.edit fun p =>
      let p := ((addWiths p s).addWith "Glib.Object").addWith "System"
      addBodies g.naming (p.addTo "Constructors" (declaration g.naming subs indentStep)) subs

/-- The constructors, then the type function. -/
def constructors (g : Generator) (c : GirClass) (names : ClassNames) (d : Draft) : Draft :=
  let d := c.constructors.foldl (g.addConstructor names) d
  match g.builder.getType c with
  | .ok (some getType) =>
    d.edit fun p => (p.addWith "Glib").addTo "Constructors" (declaration g.naming [getType] indentStep)
  | .ok none => d
  | .error k =>
    match c.getType with
    | some id => d.skip id k
    | none => d

/-- One method: its wrapper, or a diagnostic. -/
def addMethod (g : Generator) (names : ClassNames) (d : Draft) (m : Callable) : Draft :=
  match g.builder.build m with
  | .error k => d.skip m.identifier k
  | .ok s =>
    let sub := g.builder.method names s
    d.edit fun p =>
      let p := ((addWiths p s).addWith "Glib.Object").addWith "System"
      addBodies g.naming (p.addTo "Methods" (declaration g.naming [sub] indentStep)) [sub]

/-- The methods. -/
def methods (g : Generator) (c : GirClass) (names : ClassNames) (d : Draft) : Draft :=
  c.methods.foldl (g.addMethod names) d

/-- The commented description of a bound property. -/
def propertyComment (g : Generator) (b : PropertyBinding) : String :=
  indentStep ++ "--  Name:  " ++ b.adaName ++ "\n" ++
    indentStep ++ "--  Type:  " ++ b.typeName ++ "\n" ++
    indentStep ++ "--  Flags: " ++ b.flags ++ "\n" ++
    match b.doc with
    | some doc => docComment g.naming [doc] indentStep
    | none => ""

/-- The listing of the bound properties, as a comment block. -/
def propertyListing (g : Generator) (bound : List PropertyBinding) : String :=
  indentStep ++ "--  The following properties are defined for this widget. See\n" ++
    indentStep ++ "--  Glib.Properties for more information on properties.\n" ++
    String.join (bound.map fun b => indentStep ++ "--\n" ++ g.propertyComment b)

/-- The declaration of a property constant. -/
def propertyConstant (b : PropertyBinding) : String :=
  indentStep ++ b.adaName ++ " : constant " ++ b.propertyType ++ ";\n"

/-- The definition of a property constant, for the private part. -/
def propertyDefinition (b : PropertyBinding) : String :=
  indentStep ++ b.adaName ++ " : constant " ++ b.propertyType ++ " :=\n" ++
    indentStep ++ "  " ++ b.package ++ ".Build (\"" ++ b.nativeName ++ "\");\n"

/-- The properties: the skipped ones reported, the bound ones listed, declared and defined. -/
def properties (g : Generator) (c : GirClass) (names : ClassNames) (d : Draft) : Draft :=
  let result := g.propertyTypes.bindClass g.resolver c
  let bound := result.1
  let d := result.2.foldl (fun d s => d.skip (names.typeName ++ ":" ++ s.1) s.2) d
  if bound.isEmpty then d
  else
    d.edit fun p =>
      let p := bound.foldl (fun p b => p.addWith b.package) p
      let p := (p.addTo "Properties" (g.propertyListing bound)).addTo "Properties"
        (String.join (bound.map propertyConstant))
      p.addPrivate (String.join (bound.map propertyDefinition))

/-- The declarations for one bound signal: its name constant, its handler's profile as a comment
and its documentation. -/
def signalText (g : Generator) (names : ClassNames) (s : Signature) : String :=
  indentStep ++ s.adaName ++ " : constant Glib.Signal_Name := \"" ++ s.nativeName ++ "\";\n" ++
    commentedProfile (g.builder.signalHandler names s) indentStep ++
    if s.docParagraphs.isEmpty then "" else docComment g.naming s.docParagraphs indentStep

/-- One signal, in sorted order: bound, its signature joins the others; otherwise it is
reported. -/
def addSignal (g : Generator) (names : ClassNames) (acc : Draft × List Signature)
    (sig : Callable) : Draft × List Signature :=
  match g.builder.build sig with
  | .ok s => (acc.1, acc.2 ++ [s])
  | .error k => (acc.1.skip (names.typeName ++ "::" ++ sig.name) k, acc.2)

/-- The signals, sorted by name. -/
def signals (g : Generator) (c : GirClass) (names : ClassNames) (d : Draft) : Draft :=
  let sorted := c.signals.mergeSort fun a b => decide (a.name ≤ b.name)
  let acc := sorted.foldl (g.addSignal names) (d, [])
  let d := acc.1
  let bound := acc.2
  if bound.isEmpty then d
  else
    d.edit fun p =>
      let p := (p.addWith "Glib").addTo "Signals"
        (indentStep ++ "--  The following new signals are defined for this widget:\n")
      bound.foldl (fun p s => (addWiths p s).addTo "Signals" (g.signalText names s)) p

/-- The package documentation: the overrides', or else the class's own when the class is not
merged into another package. -/
def documentation (g : Generator) (c : GirClass) (names : ClassNames) (target : String)
    (p : Package) : Package :=
  match g.overrides.packageDoc names.package with
  | some doc => p.setDoc doc
  | none =>
    match c.doc with
    | some doc => if target == names.package then p.setDoc (cleanDoc g.naming doc) else p
    | none => p

/-- Everything a class contributes to its package `target`, whose current state is `p`. -/
def classDraft (g : Generator) (c : GirClass) (names : ClassNames) (target : String)
    (p : Package) : Draft :=
  let p := g.typeDeclaration c names (g.documentation c names target p)
  g.signals c names (g.properties c names (g.methods c names (g.constructors c names ⟨p, []⟩)))

end Generator

end GirAda
