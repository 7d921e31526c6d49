import GirAda.Xml.Attribute
import GirAda.Xml.Name

/-!
# Namespace scopes

A start tag may declare namespaces: `xmlns="uri"` sets the default namespace and
`xmlns:p="uri"` binds the prefix `p`, both for the element and its descendants. An empty
prefix, `xmlns:="uri"`, sets the default namespace too, while a name written with an empty
prefix, `:a`, has a prefix that nothing binds. A scope holds
the declarations in force, innermost element first. The prefixes `xml` and `xmlns` are bound
in every document and cannot be rebound, nor can another prefix take their namespaces.

Element names without a prefix take the default namespace; attribute names without a prefix
have no namespace. A prefix bound to the empty name, or bound nowhere, is unknown.
-/

namespace GirAda.Xml

/-- A namespace declaration: the prefix it binds (`none` for the default namespace) and the
namespace name as written; an empty name undoes the binding. -/
structure Binding where
  qualifier : Option String
  uri : String
  deriving DecidableEq, Repr

/-- The declarations in force, one list per open element, innermost first; within an element,
later declarations come first. -/
structure Scope where
  frames : List (List Binding)
  deriving Inhabited

/-- How a name's prefix resolves: to a namespace, to no namespace, or to nothing known. -/
inductive Resolution where
  | bound (uri : String)
  | unbound
  | unknown (qualifier : String)
  deriving DecidableEq, Repr

namespace Scope

/-- The scope of every document: `xml` and `xmlns` bound to their namespaces. -/
def initial : Scope := ⟨[[⟨some "xmlns", xmlnsNamespace⟩, ⟨some "xml", xmlNamespace⟩]]⟩

/-- What a key declares: `some none` for the default namespace, `some (some p)` for the prefix
`p`, `none` for an ordinary attribute. -/
def declares (key : String) : Option (Option String) :=
  match key.toList with
  | ['x', 'm', 'l', 'n', 's'] => some none
  | 'x' :: 'm' :: 'l' :: 'n' :: 's' :: ':' :: q => some (some (String.ofList q))
  | _ => none

/-- Add the declaration made by an attribute, if any, to the declarations of its element. -/
def declare (acc : List Binding) (a : RawAttribute) : Except NamespaceFault (List Binding) :=
  match declares a.key with
  | none => .ok acc
  | some none => .ok (⟨none, a.value⟩ :: acc)
  | some (some q) =>
    if q == "xml" then
      if a.value == xmlNamespace then .ok acc else .error (.xmlRebound a.value)
    else if q == "xmlns" then .error (.xmlnsBound a.value)
    else if a.value == xmlNamespace then .error (.xmlNamespaceTaken q)
    else if a.value == xmlnsNamespace then .error (.xmlnsNamespaceTaken q)
    else .ok (⟨if q.isEmpty then none else some q, a.value⟩ :: acc)

/-- Enter an element: its declarations, read up to the first malformed attribute, come into
force. -/
def enter (s : Scope) (tag : String) : Except NamespaceFault Scope := do
  let frame ← (readAttributes false tag).1.foldlM declare []
  return ⟨frame :: s.frames⟩

/-- Leave the innermost element: its declarations go out of force. -/
def leave (s : Scope) : Scope := ⟨s.frames.tail⟩

/-- The namespace name of the innermost declaration for a prefix (`none`: the default). -/
def lookup (s : Scope) (q : Option String) : Option String :=
  (s.frames.flatten.find? (fun b => b.qualifier == q)).map Binding.uri

/-- A name split at its first colon into prefix and local part. -/
def split (raw : String) : Option String × String :=
  match raw.toList.span (· != ':') with
  | (l, []) => (none, String.ofList l)
  | (q, _ :: l) => (some (String.ofList q), String.ofList l)

/-- How a prefix resolves. -/
def resolvePrefix (s : Scope) (q : String) : Resolution :=
  match s.lookup (some q) with
  | some u => if u.isEmpty then .unknown q else .bound u
  | none => .unknown q

/-- How an element name resolves, and its local part. -/
def resolveElement (s : Scope) (raw : String) : Resolution × String :=
  match split raw with
  | (none, l) =>
    match s.lookup none with
    | some u => (if u.isEmpty then .unbound else .bound u, l)
    | none => (.unbound, l)
  | (some q, l) => (s.resolvePrefix q, l)

/-- How an attribute name resolves, and its local part. -/
def resolveAttribute (s : Scope) (raw : String) : Resolution × String :=
  match split raw with
  | (none, l) => (.unbound, l)
  | (some q, l) => (s.resolvePrefix q, l)

end Scope

end GirAda.Xml
