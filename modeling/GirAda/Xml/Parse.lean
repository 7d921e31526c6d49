import GirAda.Xml.Element
import GirAda.Xml.Error
import GirAda.Xml.Scope

/-!
# Reading a document into a tree

`Element.parse` reads the tokens of a document in order and builds its tree. A start tag opens
an element inside the innermost open one, an end tag closes it, an empty-element tag opens and
closes one at once; character data and CDATA sections are appended to the innermost open
element, and ignored outside every element. The single element at top level is the root.

The first offending token decides the error: a namespace declaration that breaks the reserved
bindings, an undeclared prefix on the element or on one of its attributes, a reference that
cannot be decoded, a malformed attribute, or a second top-level element. When all tokens are
taken, a reading fault that stopped the tokens comes next, then an element left open, then a
document without elements.
-/

namespace GirAda.Xml

open GirAda.Text

/-- The state of reading: the open elements, innermost first, with their content so far; the
root once it is closed; and the namespace declarations in force. -/
structure Builder where
  stack : List Element
  root : Option Element
  scope : Scope
  deriving Inhabited

/-- The namespace of a name as resolved; the prefix `xml` needs no declaration. -/
def namespaceOf (raw : String) : Resolution → Except ParseError (Option String)
  | .bound u => .ok (some u)
  | .unbound => .ok none
  | .unknown q => if q == "xml" then .ok (some xmlNamespace) else .error (.unboundPrefix raw)

/-- The attributes of an element with their names resolved and values decoded, leaving out
namespace declarations. `pos` is the offset of the tag, for faults. -/
def resolveAttributes (pos : Nat) (scope : Scope) :
    List RawAttribute → Except ParseError (List (XName × String))
  | [] => .ok []
  | a :: as =>
    if (Scope.declares a.key).isSome then resolveAttributes pos scope as
    else
      let (res, l) := scope.resolveAttribute a.key
      match decode a.value with
      | .error f => .error (.read pos (.escape f))
      | .ok v => do
        let ns ← namespaceOf a.key res
        let rest ← resolveAttributes pos scope as
        return (⟨ns, l⟩, v) :: rest

/-- The element a tag opens, in the scope that the tag's own declarations extend. -/
def openElement (pos : Nat) (scope : Scope) (tag : String) : Except ParseError Element := do
  let raw := String.ofList (tagName tag.toList)
  let (res, l) := scope.resolveElement raw
  let ns ← namespaceOf raw res
  let (attrs, fault) := readAttributes true tag
  let resolved ← resolveAttributes pos scope attrs
  match fault with
  | some f => .error (.malformedAttribute pos f)
  | none => .ok ⟨⟨ns, l⟩, resolved, [], ""⟩

namespace Builder

/-- Nothing read yet. -/
def initial : Builder := ⟨[], none, Scope.initial⟩

/-- Add a closed element to the innermost open one, or make it the root. -/
def attach (b : Builder) (e : Element) : Except ParseError Builder :=
  match b.stack with
  | p :: ps => .ok { b with stack := { p with children := p.children ++ [e] } :: ps }
  | [] =>
    match b.root with
    | none => .ok { b with root := some e }
    | some _ => .error (.unexpectedEnd e.name.render)

/-- Append character data to the innermost open element; outside every element they are
ignored. -/
def addText (b : Builder) (t : String) : Builder :=
  match b.stack with
  | e :: es => { b with stack := { e with content := e.content ++ t } :: es }
  | [] => b

/-- Take one token, read at byte `pos`. -/
def step (b : Builder) : Nat × Token → Except ParseError Builder
  | (pos, .text raw) =>
    match b.stack with
    | [] => .ok b
    | _ :: _ =>
      match decode raw with
      | .error f => .error (.read pos (.escape f))
      | .ok t => .ok (b.addText t)
  | (_, .cdata raw) => .ok (b.addText raw)
  | (pos, .start tag) => do
    let scope ← (b.scope.enter tag).mapError (fun f => .read pos (.binding f))
    let e ← openElement pos scope tag
    return { b with stack := e :: b.stack, scope := scope }
  | (pos, .empty tag) => do
    let scope ← (b.scope.enter tag).mapError (fun f => .read pos (.binding f))
    let e ← openElement pos scope tag
    let b' ← attach { b with scope := scope } e
    return { b' with scope := b'.scope.leave }
  | (_, .close name) =>
    match b.stack with
    | [] => .error (.unexpectedEnd name)
    | e :: es => do
      let b' ← attach { b with stack := es } e
      return { b' with scope := b'.scope.leave }
  | _ => .ok b

/-- The root, once every token is taken: no element may be left open. -/
def finish (b : Builder) : Except ParseError Element :=
  match b.stack with
  | e :: _ => .error (.unclosed e.name.render)
  | [] =>
    match b.root with
    | some r => .ok r
    | none => .error .noRoot

end Builder

/-- Read a document into its root element. -/
def Element.parse (s : String) : Except ParseError Element := do
  let sc := scan s
  let b ← sc.tokens.foldlM Builder.step Builder.initial
  match sc.fault with
  | some (pos, f) => .error (.read pos f)
  | none => b.finish

end GirAda.Xml
