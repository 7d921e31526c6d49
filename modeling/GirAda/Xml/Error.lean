import GirAda.Xml.Fault

/-!
# Document errors

Why a document cannot be read into the structure a reader wants: a reading fault or malformed
attribute at a byte offset, an undeclared prefix, a second top-level element, an element left
open, no element at all, or (for the structure built on top of the tree) the wrong root, a
missing namespace element or a missing required attribute.
-/

namespace GirAda.Xml

/-- Why a document cannot be read. -/
inductive ParseError where
  | read (position : Nat) (fault : ReadError)
  | malformedAttribute (position : Nat) (fault : AttrFault)
  | unboundPrefix (name : String)
  | unexpectedEnd (name : String)
  | unclosed (name : String)
  | noRoot
  | unexpectedRoot (expected found : String)
  | missingNamespace
  | missingAttribute (element key : String)
  deriving DecidableEq, Repr

namespace ParseError

/-- The text of the error. -/
def message : ParseError → String
  | .read p _ => "XML error at byte " ++ toString p
  | .malformedAttribute p _ => "Malformed attribute at byte " ++ toString p
  | .unboundPrefix n => "Undeclared namespace prefix \"" ++ n ++ "\""
  | .unexpectedEnd n => "Unexpected closing tag \"" ++ n ++ "\""
  | .unclosed n => "Element \"" ++ n ++ "\" is never closed"
  | .noRoot => "Document has no root element"
  | .unexpectedRoot e f => "Expected root element \"" ++ e ++ "\" but found \"" ++ f ++ "\""
  | .missingNamespace => "Document has no <namespace> element"
  | .missingAttribute e a => "Element <" ++ e ++ "> is missing required attribute \"" ++ a ++ "\""

/-- The faults behind the error, outermost first. -/
def causes : ParseError → List String
  | .read _ f => f.message :: f.causes
  | .malformedAttribute _ f => [f.message]
  | _ => []

end ParseError

end GirAda.Xml
