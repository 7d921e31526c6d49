import GirAda.Xml.Error
import GirAda.FileFault

/-!
# Load errors

Why an input could not be loaded: a file that could not be read, a file or text that is not a
valid document of its kind, or a class asked for by name that the document does not have.
-/

namespace GirAda.Gir

open GirAda.Xml

/-- Why an input could not be loaded or a class not found. -/
inductive LoadError where
  | failedToRead (path : String) (fault : FileFault)
  | failedToParseFile (path : String) (error : ParseError)
  | parse (error : ParseError)
  | classNotFound (name space : String)
  deriving DecidableEq, Repr

namespace LoadError

/-- The text of the error. -/
def message : LoadError → String
  | .failedToRead p _ => "Could not read \"" ++ p ++ "\""
  | .failedToParseFile p _ => "Failed to parse \"" ++ p ++ "\""
  | .parse _ => "Failed to parse document"
  | .classNotFound n s => "Could not find class \"" ++ n ++ "\" in namespace \"" ++ s ++ "\""

/-- The errors behind the error, outermost first. -/
def causes : LoadError → List String
  | .failedToRead _ f => [f.message]
  | .failedToParseFile _ e => e.message :: e.causes
  | .parse e => e.message :: e.causes
  | .classNotFound _ _ => []

end LoadError

end GirAda.Gir
