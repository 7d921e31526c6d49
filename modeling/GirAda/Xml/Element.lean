import GirAda.Xml.Name
import GirAda.Text.Blank
import GirAda.Text.Bytes

/-!
# Element trees

A document is read into a tree of elements. Each element has its expanded name, its attributes
in document order (namespace declarations are not attributes), its child elements in document
order, and the character data found directly inside it, escapes decoded.

Lookups go by expanded name: `get?` gives the first attribute of a name, `find?` the first child,
`findAll` all children, and `findText?` the trimmed text of the first child when that is not
empty. `render` writes an element back as indented markup, for diagnostics.
-/

namespace GirAda.Xml

open GirAda.Text

/-- An element: name, attributes, children and the character data directly inside it. -/
structure Element where
  name : XName
  attributes : List (XName × String)
  children : List Element
  content : String
  deriving Inhabited

namespace Element

/-- Whether the element has the given expanded name. -/
def is (e : Element) (q : XName) : Bool := e.name == q

/-- The local part of the element's name. -/
def localName (e : Element) : String := e.name.localPart

/-- The value of the first attribute with the given name. -/
def get? (e : Element) (q : XName) : Option String :=
  (e.attributes.find? (fun a => a.1 == q)).map Prod.snd

/-- The first child with the given name. -/
def find? (e : Element) (q : XName) : Option Element := e.children.find? (·.is q)

/-- All children with the given name, in document order. -/
def findAll (e : Element) (q : XName) : List Element := e.children.filter (·.is q)

/-- The character data directly inside the element, without blanks at either end. -/
def text (e : Element) : String := trim e.content

/-- The trimmed text of the first child with the given name, when it is not empty. -/
def findText? (e : Element) (q : XName) : Option String :=
  match e.find? q with
  | some c => if c.text.isEmpty then none else some c.text
  | none => none

/-- One attribute as written back: a blank, the name, and the value in double quotes. -/
def renderAttribute (a : XName × String) : String := " " ++ a.1.render ++ "=\"" ++ a.2 ++ "\""

/-- The element written as markup at nesting depth `depth`: two spaces of indent per level,
attribute values as they are, an empty element closed at once, and children one per line. -/
def renderAt (depth : Nat) : Element → String
  | ⟨name, attributes, children, content⟩ =>
    let pad := spaces (2 * depth)
    let head := pad ++ "<" ++ name.render ++ String.join (attributes.map renderAttribute)
    let t := trim content
    if children.isEmpty && t.isEmpty then head ++ "/>\n"
    else
      let inner := if children.isEmpty then "" else "\n" ++ renderAll (depth + 1) children ++ pad
      head ++ ">" ++ t ++ inner ++ "</" ++ name.render ++ ">\n"
where
  /-- The elements written one after another at the same depth. -/
  renderAll (depth : Nat) : List Element → String
    | [] => ""
    | e :: es => renderAt depth e ++ renderAll depth es

/-- The element written as markup, for diagnostics. -/
def render (e : Element) : String := renderAt 0 e

end Element

end GirAda.Xml
