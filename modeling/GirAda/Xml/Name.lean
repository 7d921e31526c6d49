/-!
# Expanded names

Elements and attributes are named by a namespace, if any, and a local part. Names are compared
in this expanded form, so a lookup does not depend on which prefix a document chose for a
namespace. The written form of a name puts the namespace in braces before the local part.
-/

namespace GirAda.Xml

/-- A name with its namespace resolved: the namespace name, if any, and the local part. -/
structure XName where
  space : Option String
  localPart : String
  deriving DecidableEq, Repr, Inhabited

namespace XName

/-- A name in a namespace. -/
def inSpace (space localPart : String) : XName := ⟨some space, localPart⟩

/-- A name in no namespace, as unprefixed attributes have. -/
def plain (localPart : String) : XName := ⟨none, localPart⟩

/-- The written form: the namespace in braces, then the local part. -/
def render : XName → String
  | ⟨some ns, l⟩ => "\x7b" ++ ns ++ "\x7d" ++ l
  | ⟨none, l⟩ => l

example : (inSpace "urn:x" "a").render = "\x7burn:x\x7da" := by decide

end XName

/-- The namespace bound to the prefix `xml` in every document. -/
def xmlNamespace : String := "http://www.w3.org/XML/1998/namespace"

/-- The namespace bound to the prefix `xmlns` in every document. -/
def xmlnsNamespace : String := "http://www.w3.org/2000/xmlns/"

end GirAda.Xml
