import GirAda.Gir.Callable

/-!
# Classes

A class of an introspection document: its name, its parent and the native function giving its
type, if any, its documentation, and its constructors, methods, properties and signals, each in
document order. A property is readable and writable unless it says `"0"`.
-/

namespace GirAda.Gir

open GirAda.Xml

/-- A property: its name, type shape, access and documentation. -/
structure Property where
  name : String
  shape : Shape
  readable : Bool
  writable : Bool
  doc : Option String
  deriving Repr, Inhabited

/-- The property described by a `<property>` element. -/
def Property.ofElement (node : Element) : Except ParseError Property := do
  let name ← required node (XName.plain "name")
  return {
    name, shape := Shape.ofElement node
    readable := node.get? (XName.plain "readable") != some "0"
    writable := node.get? (XName.plain "writable") != some "0"
    doc := node.findText? (core "doc") }

/-- A class and its members. -/
structure GirClass where
  name : String
  parent : Option String
  getType : Option String
  doc : Option String
  constructors : List Callable
  methods : List Callable
  properties : List Property
  signals : List Callable
  deriving Repr, Inhabited

/-- The element name of signals. -/
def signalName : XName := XName.inSpace glibNamespace "signal"

/-- The class described by a `<class>` element; members are read in the order constructors,
methods, properties, signals, and the first error wins. -/
def GirClass.ofElement (node : Element) : Except ParseError GirClass := do
  let name ← required node (XName.plain "name")
  let constructors ← (node.findAll (core "constructor")).mapM (Callable.ofElement .constructor)
  let methods ← (node.findAll (core "method")).mapM (Callable.ofElement .method)
  let properties ← (node.findAll (core "property")).mapM Property.ofElement
  let signals ← (node.findAll signalName).mapM (Callable.ofElement .signal)
  return {
    name, constructors, methods, properties, signals
    parent := node.get? (XName.plain "parent")
    getType := node.get? (XName.inSpace glibNamespace "get-type")
    doc := node.findText? (core "doc") }

end GirAda.Gir
