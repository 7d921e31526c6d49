import GirAda.Ada.Resolve

/-!
# Property bindings

A property of a class becomes a typed constant of the `Glib.Properties` family. The type of the
constant comes from a table of native types (`gint` gives `Property_Int`); objects give
`Property_Object`; other scalars give a property type named after their Ada type, in the
namespace's `Enums` package when the type belongs to the namespace. Arrays and types that cannot
be resolved are skipped.

`bindClass` binds every property of a class and keeps the bound ones sorted by native name
(byte order, equal names in document order) and the skipped ones in document order.
-/

namespace GirAda.Ada

open GirAda.Gir

/-- A property ready to be declared. -/
structure PropertyBinding where
  nativeName : String
  adaName : String
  typeName : String
  package : String
  flags : String
  doc : Option String
  deriving DecidableEq, Repr, Inhabited

/-- The declared type of the constant, e.g. `Glib.Properties.Property_Float`. -/
def PropertyBinding.propertyType (b : PropertyBinding) : String :=
  b.package ++ ".Property_" ++ b.typeName

/-- Property type suffixes by native type (latest entry first), the package of the property
types, and the suffix for objects. -/
structure PropertyTypes where
  byNative : List (String × String)
  package : String
  object : String
  deriving Inhabited

/-- The access flags of a property: `read-write`, `read`, `write` or nothing. -/
def accessFlags : Bool → Bool → String
  | true, true => "read-write"
  | true, false => "read"
  | false, true => "write"
  | false, false => ""

namespace PropertyTypes

/-- The default table. -/
def default : PropertyTypes :=
  ⟨[("utf8", "String"), ("filename", "String"), ("gdouble", "Double"), ("gint", "Int"),
    ("guint", "Uint"), ("glong", "Long"), ("gulong", "Ulong"), ("gboolean", "Boolean"),
    ("gfloat", "Float"), ("gchar", "Char"), ("guchar", "Uchar"), ("gunichar", "Unichar"),
    ("gpointer", "Pointer")], "Glib.Properties", "Object"⟩

/-- Give a native type a property type suffix. -/
def insert (pt : PropertyTypes) (native suffix : String) : PropertyTypes :=
  { pt with byNative := (native, suffix) :: pt.byNative }

/-- The property type and package for a scalar of a resolved type. -/
def scalarType (pt : PropertyTypes) (n : Naming) (ty : AdaType) : String × String :=
  match latestEntry pt.byNative ty.native with
  | some suffix => (suffix, pt.package)
  | none =>
    let ada := ty.mapping.param
    let ns := n.case n.space
    if ada.startsWith (ns ++ "_") then (ada, ns ++ ".Enums") else (ada, pt.package)

/-- Bind a property, or say why it is skipped. -/
def bindProperty (pt : PropertyTypes) (r : Resolver) (p : Property) :
    Except Skip PropertyBinding := do
  let d ← r.resolveFor p.name p.shape
  let (typeName, package) ← match d with
    | .scalar ty _ => pure (pt.scalarType r.naming ty)
    | .object _ => pure (pt.object, pt.package)
    | other => throw (.unsupportedProperty other.display)
  return {
    nativeName := p.name
    adaName := r.naming.case p.name ++ "_Property"
    typeName, package
    flags := accessFlags p.readable p.writable
    doc := p.doc }

/-- Bind the properties of a class: the bound ones sorted by native name, the skipped ones with
their reasons in document order. -/
def bindClass (pt : PropertyTypes) (r : Resolver) (c : GirClass) :
    List PropertyBinding × List (String × Skip) :=
  let results := c.properties.map fun p => (p.name, pt.bindProperty r p)
  let bound := results.filterMap fun
    | (_, .ok b) => some b
    | _ => none
  let skipped := results.filterMap fun
    | (n, .error k) => some (n, k)
    | _ => none
  (bound.mergeSort (fun a b => decide (a.nativeName ≤ b.nativeName)), skipped)

end PropertyTypes

end GirAda.Ada
