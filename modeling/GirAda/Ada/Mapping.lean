/-!
# Type mappings

How one native type is spelled and converted on the Ada side: the public type of parameters
and of results, the type in the imported C profile, the conversions between public and foreign
values, the packages the Ada code needs, and whether the C type is itself a pointer.

A conversion is an expression template in which the hole `{}` stands for the value; it may go
through a temporary variable (initialized from the value and cleaned up after the call), and it
may need a local declaration.
-/

namespace GirAda.Ada

/-- The hole of an expression template. -/
def hole : String := "\x7b\x7d"

/-- Fill every hole of a template, given as characters, with a value. -/
def fillChars (value : List Char) : List Char → List Char
  | [] => []
  | '\x7b' :: '\x7d' :: cs => value ++ fillChars value cs
  | c :: cs => c :: fillChars value cs

/-- Fill every hole of a template with a value. -/
def fill (template value : String) : String :=
  String.ofList (fillChars value.toList template.toList)

/-- A local variable a conversion goes through: its type, its initial value (a template on the
Ada value) and the statement run after the call (a template on the variable). -/
structure Temporary where
  ty : String
  init : String
  cleanup : Option String
  deriving DecidableEq, Repr, Inhabited

/-- A conversion at the language boundary. -/
structure Conversion where
  expr : String
  temporary : Option Temporary
  localDecl : Option String
  deriving DecidableEq, Repr, Inhabited

namespace Conversion

/-- The conversion that leaves the value as it is. -/
def identity : Conversion := ⟨hole, none, none⟩

/-- A conversion by an expression template. -/
def ofExpr (template : String) : Conversion := ⟨template, none, none⟩

/-- A conversion through a temporary variable. -/
def through (ty init : String) (cleanup : Option String) : Conversion :=
  ⟨hole, some ⟨ty, init, cleanup⟩, none⟩

/-- The conversion with a local declaration it relies on. -/
def withLocal (c : Conversion) (decl : String) : Conversion := { c with localDecl := some decl }

/-- The conversion applied to a value. -/
def apply (c : Conversion) (value : String) : String := fill c.expr value

/-- Whether the conversion leaves the value as it is and needs no temporary. -/
def isIdentity (c : Conversion) : Bool := c.expr == hole && c.temporary.isNone

end Conversion

/-- How a native type is spelled and converted on the Ada side. -/
structure Mapping where
  param : String
  result : String
  foreign : String
  toC : Conversion
  fromC : Conversion
  packages : List String
  nativePointer : Bool
  deriving DecidableEq, Repr, Inhabited

/-- A type that crosses the boundary unchanged, from an optional package. -/
def Mapping.direct (ada : String) (pkg : Option String) : Mapping :=
  ⟨ada, ada, ada, .identity, .identity, pkg.toList, false⟩

end GirAda.Ada
