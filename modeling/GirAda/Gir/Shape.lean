import GirAda.Xml.Element

/-!
# Type shapes

Parameters, return values and properties of an introspection document say their type in one of
four shapes: a direct type (`<type name=".." c:type=".."/>`), an array with the type of its
elements, a variable argument list, or something else. The first child that fits decides, in
the order type, array, variable arguments, whatever the order of the children.
-/

namespace GirAda.Gir

open GirAda.Xml

/-- The namespace of the core elements of an introspection document. -/
def coreNamespace : String := "http://www.gtk.org/introspection/core/1.0"

/-- The namespace of the C attributes of an introspection document. -/
def cNamespace : String := "http://www.gtk.org/introspection/c/1.0"

/-- The namespace of the GLib elements and attributes of an introspection document. -/
def glibNamespace : String := "http://www.gtk.org/introspection/glib/1.0"

/-- A core element name. -/
def core (l : String) : XName := XName.inSpace coreNamespace l

/-- The C type attribute, `c:type`. -/
def cTypeName : XName := XName.inSpace cNamespace "type"

/-- A type as the document names it: its introspection name and its C type, each if given. -/
structure TypeName where
  name : Option String
  cType : Option String
  deriving DecidableEq, Repr, Inhabited

/-- The type named by a `<type>` element. -/
def TypeName.ofElement (e : Element) : TypeName :=
  ⟨e.get? (XName.plain "name"), e.get? cTypeName⟩

/-- The shape of the type of a parameter, return value or property. -/
inductive Shape where
  | direct (t : TypeName)
  | array (cType : Option String) (element : Option TypeName)
  | varargs
  | unrecognized (markup : String)
  deriving DecidableEq, Repr, Inhabited

namespace Shape

/-- The shape of the type given by the children of a node. -/
def ofElement (node : Element) : Shape :=
  match node.find? (core "type") with
  | some t => .direct (TypeName.ofElement t)
  | none =>
    match node.find? (core "array") with
    | some a => .array (a.get? cTypeName) ((a.find? (core "type")).map TypeName.ofElement)
    | none =>
      if (node.find? (core "varargs")).isSome then .varargs else .unrecognized node.render

/-- A part of a shape's text, with `?` when it is missing. -/
def part : Option String → String
  | some s => s
  | none => "?"

/-- The text of a shape: `name (c_type)`, `name[] (c_type)` for an array of a named type,
`[] (c_type)` for an array without one, `...` and `UNRECOGNIZED`. -/
def display : Shape → String
  | .direct t => part t.name ++ " (" ++ part t.cType ++ ")"
  | .array _ (some t) => part t.name ++ "[] (" ++ part t.cType ++ ")"
  | .array c none => "[] (" ++ part c ++ ")"
  | .varargs => "..."
  | .unrecognized _ => "UNRECOGNIZED"

end Shape

end GirAda.Gir
