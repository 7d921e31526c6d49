import GirAda.Xml.Escape

/-!
# Reading faults

The faults that stop the reading of markup, each with its text and the chain of faults behind
it: markup that is not closed before the end of the input, an end tag that closes no open
element or the wrong one, a reference that cannot be decoded, a namespace declaration that
rebinds a reserved prefix or namespace, and a malformed attribute.
-/

namespace GirAda.Xml

/-- Markup not closed before the end of the input, or an unknown kind of `<!` markup. -/
inductive MarkupFault where
  | unknownBang
  | unclosedInstruction
  | unclosedComment
  | unclosedDoctype
  | unclosedCData
  | unclosedTag
  deriving DecidableEq, Repr

/-- The text of a syntax fault. -/
def MarkupFault.message : MarkupFault → String
  | .unknownBang => "unknown or missed symbol in markup"
  | .unclosedInstruction =>
    "processing instruction or xml declaration not closed: `?>` not found before end of input"
  | .unclosedComment => "comment not closed: `-->` not found before end of input"
  | .unclosedDoctype => "DOCTYPE not closed: `>` not found before end of input"
  | .unclosedCData => "CDATA not closed: `]]>` not found before end of input"
  | .unclosedTag => "tag not closed: `>` not found before end of input"

/-- Markup that is complete but does not nest or lacks a required part. -/
inductive FormFault where
  | missingDoctypeName
  | unmatchedClose (name : String)
  | mismatchedClose (expected found : String)
  deriving DecidableEq, Repr

/-- The text of a form fault. -/
def FormFault.message : FormFault → String
  | .missingDoctypeName => "`<!DOCTYPE>` declaration does not contain a name of a document type"
  | .unmatchedClose n => "close tag `</" ++ n ++ ">` does not match any open tag"
  | .mismatchedClose e f => "expected `</" ++ e ++ ">`, but `</" ++ f ++ ">` was found"

/-- Bytes written for diagnostics: printable ASCII as it is, a double quote escaped, other
bytes in hexadecimal, all in double quotes. -/
def quotedBytes (s : String) : String :=
  "\"" ++ String.join (s.toUTF8.toList.map byte) ++ "\""
where
  /-- One byte of the quoted form. -/
  byte (b : UInt8) : String :=
    if b == 34 then "\\\""
    else if 32 ≤ b && b ≤ 126 then String.singleton (Char.ofNat b.toNat)
    else "0x" ++ String.ofList ((Nat.toDigits 16 b.toNat).map Char.toUpper)

/-- A namespace declaration that breaks the rules for the reserved prefixes and namespaces. -/
inductive NamespaceFault where
  | xmlRebound (uri : String)
  | xmlnsBound (uri : String)
  | xmlNamespaceTaken (qualifier : String)
  | xmlnsNamespaceTaken (qualifier : String)
  deriving DecidableEq, Repr

/-- The text of a namespace fault. -/
def NamespaceFault.message : NamespaceFault → String
  | .xmlRebound uri => "the namespace prefix 'xml' cannot be bound to '" ++ quotedBytes uri ++ "'"
  | .xmlnsBound uri => "the namespace prefix 'xmlns' cannot be bound to '" ++ quotedBytes uri ++ "'"
  | .xmlNamespaceTaken q =>
    "the namespace prefix '" ++ quotedBytes q ++
      "' cannot be bound to 'http://www.w3.org/XML/1998/namespace'"
  | .xmlnsNamespaceTaken q =>
    "the namespace prefix '" ++ quotedBytes q ++ "' cannot be bound to 'http://www.w3.org/2000/xmlns/'"

/-- A malformed attribute. Positions are byte offsets into the tag, name included. -/
inductive AttrFault where
  | expectedEq (pos : Nat)
  | expectedValue (pos : Nat)
  | unquotedValue (pos : Nat)
  | expectedQuote (pos : Nat) (quote : Char)
  | duplicated (pos previous : Nat)
  deriving DecidableEq, Repr

/-- The text of an attribute fault. -/
def AttrFault.message : AttrFault → String
  | .expectedEq p =>
    "position " ++ toString p ++ ": attribute key must be directly followed by `=` or space"
  | .expectedValue p => "position " ++ toString p ++ ": `=` must be followed by an attribute value"
  | .unquotedValue p =>
    "position " ++ toString p ++ ": attribute value must be enclosed in `\"` or `'`"
  | .expectedQuote p q =>
    "position " ++ toString p ++ ": missing closing quote `" ++ String.singleton q ++
      "` in attribute value"
  | .duplicated p q =>
    "position " ++ toString p ++ ": duplicated attribute, previous declaration at position " ++
      toString q

/-- A fault that stops reading a document. -/
inductive ReadError where
  | markup (fault : MarkupFault)
  | illFormed (fault : FormFault)
  | escape (fault : EscapeFault)
  | binding (fault : NamespaceFault)
  deriving DecidableEq, Repr

/-- The text of a reading fault. -/
def ReadError.message : ReadError → String
  | .markup f => "syntax error: " ++ f.message
  | .illFormed f => "ill-formed document: " ++ f.message
  | .escape f => f.message
  | .binding f => f.message

/-- The faults behind a reading fault, outermost first. -/
def ReadError.causes : ReadError → List String
  | .markup f => [f.message]
  | .illFormed f => [f.message]
  | .escape f => f.message :: f.causes
  | .binding f => [f.message]

end GirAda.Xml
