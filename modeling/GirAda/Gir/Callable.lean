import GirAda.Gir.Shape
import GirAda.Xml.Error

/-!
# Callables

Constructors, methods and signals of a class. Each has a name, possibly a C identifier, the
parameters listed in its first `<parameters>` child, possibly a return value and documentation,
and a deprecation when it carries a `deprecated` attribute. It is known by its C identifier when
it has one, by its name otherwise.
-/

namespace GirAda.Gir

open GirAda.Xml

/-- The value of an attribute the element must carry. -/
def required (e : Element) (q : XName) : Except ParseError String :=
  match e.get? q with
  | some v => .ok v
  | none => .error (.missingAttribute e.localName q.localPart)

/-- A parameter: its name, the shape of its type and its documentation. -/
structure Parameter where
  name : String
  shape : Shape
  doc : Option String
  deriving Repr, Inhabited

/-- A deprecation: the version it happened in, if given, and what to use instead. -/
structure Deprecation where
  version : Option String
  replacement : String
  deriving DecidableEq, Repr, Inhabited

/-- The three kinds of callables. -/
inductive CallableKind where
  | constructor
  | method
  | signal
  deriving DecidableEq, Repr, Inhabited

/-- The kind's name, capitalized. -/
def CallableKind.title : CallableKind → String
  | .constructor => "Constructor"
  | .method => "Method"
  | .signal => "Signal"

/-- A constructor, method or signal. -/
structure Callable where
  kind : CallableKind
  name : String
  cIdentifier : Option String
  parameters : List Parameter
  returnValue : Option Shape
  doc : Option String
  deprecation : Option Deprecation
  deriving Repr, Inhabited

namespace Parameter

/-- The parameter described by a `<parameter>` element. -/
def ofElement (p : Element) : Except ParseError Parameter := do
  let name ← required p (XName.plain "name")
  return ⟨name, Shape.ofElement p, p.findText? (core "doc")⟩

end Parameter

namespace Callable

/-- The callable of the given kind described by an element. -/
def ofElement (kind : CallableKind) (node : Element) : Except ParseError Callable := do
  let name ← required node (XName.plain "name")
  let parameters ← match node.find? (core "parameters") with
    | some ps => (ps.findAll (core "parameter")).mapM Parameter.ofElement
    | none => pure []
  let deprecation := (node.get? (XName.plain "deprecated")).map fun d =>
    ⟨node.get? (XName.plain "deprecated-version"), d⟩
  return {
    kind, name, parameters, deprecation
    cIdentifier := node.get? (XName.inSpace cNamespace "identifier")
    returnValue := (node.find? (core "return-value")).map Shape.ofElement
    doc := node.findText? (core "doc") }

/-- The name the callable is known by: its C identifier, or its name without one. -/
def identifier (c : Callable) : String := c.cIdentifier.getD c.name

/-- A one-line description: kind, identifier, parameters with their shapes, return value. -/
def describe (c : Callable) : String :=
  let params := ", ".intercalate (c.parameters.map fun p => p.name ++ ": " ++ p.shape.display)
  let ret := match c.returnValue with
    | some r => " -> " ++ r.display
    | none => ""
  c.kind.title ++ " " ++ c.identifier ++ "(" ++ params ++ ")" ++ ret

end Callable

end GirAda.Gir
