import GirAda.Ada.Descriptor
import GirAda.Ada.TypeTable
import GirAda.Ada.Naming
import GirAda.Gir.Repository

/-!
# Type resolution

From the shape of a type in the document to its descriptor. A direct type is a scalar when the
table knows it (by reference when its C type ends with `*` and the mapping is not a pointer
itself); otherwise, when it is named, an enumeration of the document is a scalar of the
namespace's `Enums` package, a class or any pointer is an object, and any other name is a
scalar of its own. An array is mapped by its element type, from the table or as an array of the
element's result type. Varargs and other shapes cannot be bound.
-/

namespace GirAda.Ada

open GirAda.Gir GirAda.Text

/-- What resolution needs: the document, the naming and the type table. -/
structure Resolver where
  repository : Repository
  naming : Naming
  table : TypeTable
  deriving Inhabited

namespace Resolver

/-- The mapping of an object type: an access to its class-wide record, passed as an address. -/
def objectMapping (r : Resolver) (name : String) : Mapping :=
  let ty := r.naming.typeName name
  let stub := "Stub_" ++ ty
  { param := "access " ++ ty ++ "_Record'Class"
    result := ty
    foreign := "System.Address"
    toC := .ofExpr ("Get_Object_Or_Null (GObject (" ++ hole ++ "))")
    fromC := (Conversion.ofExpr (ty ++ " (Get_User_Data (" ++ hole ++ ", " ++ stub ++ "))")).withLocal
      (stub ++ " : " ++ ty ++ "_Record;")
    packages := ["Glib.Object", "System", r.naming.packageName name]
    nativePointer := true }

/-- Whether a C type is a pointer: it ends with `*`, blanks at the end aside. -/
def isPointerType (c : String) : Bool :=
  match (c.toList.reverse.dropWhile isBlank) with
  | '*' :: _ => true
  | _ => false

/-- The descriptor of a direct type. -/
def direct (r : Resolver) (t : TypeName) : Descriptor :=
  let native := (t.name <|> t.cType).getD ""
  let cName := t.cType.getD ""
  let isPointer := isPointerType cName
  let adaType (m : Mapping) : AdaType := ⟨native, cName, m⟩
  match r.table.lookup t.name t.cType with
  | some (_, m) => .scalar (adaType m) (isPointer && !m.nativePointer)
  | none =>
    match t.name with
    | some name =>
      if name.isEmpty || name == "none" then .unknown ("<type c:type=\"" ++ cName ++ "\"/>")
      else if r.repository.isEnumeration name then
        let enums := r.naming.case r.naming.space ++ ".Enums"
        .scalar (adaType (Mapping.direct (r.naming.typeName name) (some enums))) isPointer
      else if r.repository.isClass name || isPointer then .object (adaType (r.objectMapping name))
      else .scalar (adaType (Mapping.direct (r.naming.typeName name) none)) false
    | none => .unknown ("<type c:type=\"" ++ cName ++ "\"/>")

/-- The descriptor of an array of elements of a type. -/
def array (r : Resolver) (t : TypeName) : Descriptor :=
  let native := (t.name <|> t.cType).getD ""
  let cName := t.cType.getD ""
  let element := r.direct t
  let canonical := match r.table.lookup (some native) (some cName) with
    | some (k, _) => k
    | none => native
  match r.table.lookupArray canonical with
  | some m => .array ⟨native, cName, m⟩ element
  | none =>
    match element.adaType? with
    | none => element
    | some ety =>
      let name := ety.mapping.result ++ "_Array"
      .array ⟨native, cName,
        { param := name, result := name, foreign := "System.Address"
          toC := .ofExpr (hole ++ " (" ++ hole ++ "'First)'Address")
          fromC := .identity
          packages := ety.mapping.packages ++ ["System"]
          nativePointer := true }⟩ element

/-- The descriptor of a shape; shapes that cannot be bound give `variadic` or `unknown`. -/
def classify (r : Resolver) : Shape → Descriptor
  | .direct t => r.direct t
  | .array _ (some t) => r.array t
  | .varargs => .variadic
  | s@(.array _ none) => .unknown s.display
  | .unrecognized x => .unknown x

/-- The descriptor of a shape that can be bound. -/
def resolve (r : Resolver) (s : Shape) : Option Descriptor :=
  let d := r.classify s
  if d.bindable then some d else none

/-- The descriptor of a shape that can be bound, or why it cannot, naming the parameter. -/
def resolveFor (r : Resolver) (what : String) (s : Shape) : Except Skip Descriptor :=
  match r.resolve s with
  | some d => .ok d
  | none => match s with
    | .varargs => .error .varargs
    | _ => .error (.unknownType what)

/-- What a callable returns: nothing without a return value or for the type `none`; arrays
cannot be returned. -/
def resolveReturn (r : Resolver) : Option Shape → Except Skip ReturnType
  | none => .ok .void
  | some (.direct ⟨some "none", _⟩) => .ok .void
  | some s => do
    match ← r.resolveFor "return" s with
    | .array .. => .error .arrayReturn
    | d => .ok (.value d)

end Resolver

end GirAda.Ada
