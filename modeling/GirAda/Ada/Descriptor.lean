import GirAda.Ada.Mapping

/-!
# Type descriptors

What a type shape resolves to: a scalar, passed by value or (behind a C pointer) by reference;
an object passed as an address; an array with its element's descriptor; a variable argument
list; or an unknown shape. Only scalars, objects and arrays can be bound. A scalar passed by
reference is *pointer-like*: the callee writes it, so its parameter has mode `out`.

Constructs that cannot be bound are skipped, with a reason.
-/

namespace GirAda.Ada

/-- A resolved type: the native name and C type as written, and the mapping. -/
structure AdaType where
  native : String
  cType : String
  mapping : Mapping
  deriving DecidableEq, Repr, Inhabited

/-- What a type shape resolves to. -/
inductive Descriptor where
  | scalar (ty : AdaType) (byReference : Bool)
  | object (ty : AdaType)
  | array (ty : AdaType) (element : Descriptor)
  | variadic
  | unknown (node : String)
  deriving DecidableEq, Repr, Inhabited

namespace Descriptor

/-- The resolved type, for the descriptors that can be bound. -/
def adaType? : Descriptor → Option AdaType
  | .scalar ty _ => some ty
  | .object ty => some ty
  | .array ty _ => some ty
  | .variadic => none
  | .unknown _ => none

/-- Whether the descriptor can be bound. -/
def bindable (d : Descriptor) : Bool := d.adaType?.isSome

/-- Whether the callee writes the value: a scalar passed by reference. -/
def pointerLike : Descriptor → Bool
  | .scalar _ true => true
  | _ => false

/-- The text of a descriptor: `[out ]Param (native)`, `Param (native)`, `Param (native[])`,
`...` or `UNKNOWN`. -/
def display : Descriptor → String
  | .scalar ty r => (if r then "out " else "") ++ ty.mapping.param ++ " (" ++ ty.native ++ ")"
  | .object ty => ty.mapping.param ++ " (" ++ ty.native ++ ")"
  | .array ty _ => ty.mapping.param ++ " (" ++ ty.native ++ "[])"
  | .variadic => "..."
  | .unknown _ => "UNKNOWN"

end Descriptor

/-- What a callable gives back. -/
inductive ReturnType where
  | void
  | value (d : Descriptor)
  deriving DecidableEq, Repr, Inhabited

/-- How a parameter is passed. -/
inductive Mode where
  | inMode
  | outMode
  | accessMode
  deriving DecidableEq, Repr, Inhabited

/-- The mode of a parameter of a type: `out` when the callee writes it, `in` otherwise. -/
def Mode.forType (d : Descriptor) : Mode := if d.pointerLike then .outMode else .inMode

/-- Why a construct is left out of the binding. -/
inductive Skip where
  | notBound
  | varargs
  | unknownType (what : String)
  | arrayReturn
  | unsupportedProperty (descriptor : String)
  deriving DecidableEq, Repr, Inhabited

/-- The text of a reason to skip. -/
def Skip.message : Skip → String
  | .notBound => "binding disabled by override"
  | .varargs => "varargs"
  | .unknownType w => "unknown type for \"" ++ w ++ "\""
  | .arrayReturn => "arrays cannot be returned"
  | .unsupportedProperty d => "unsupported property type \"" ++ d ++ "\""

end GirAda.Ada
