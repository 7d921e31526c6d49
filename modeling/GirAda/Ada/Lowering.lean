import GirAda.Ada.Signature
import GirAda.Text.Replace

/-!
# Lowering signatures to subprograms

Every bound callable becomes a thin wrapper around its C symbol. `lowerCall` builds
the imported `Internal` subprogram and the call to it: one argument per parameter, converted to
its foreign form. A pointer-like parameter whose conversion is not the identity goes through a
foreign variable `Tmp_P` that is copied back after the call; a conversion through a temporary
initializes `Tmp_P` from the value and may clean it up after the call.

A constructor becomes a pair: the allocating procedure, which keeps the signature's name, and
`Initialize`, which calls the C constructor. A method becomes a wrapper taking the object first;
a signal gives the profile its handlers must have.
-/

namespace GirAda.Ada

open GirAda.Gir GirAda.Text

/-- The imported C function, the call to it, the local declarations the call needs and the
statements to run after it. -/
structure LoweredCall where
  internal : Subprogram
  expression : String
  locals : List String
  cleanups : List String
  deriving Inhabited

/-- What one parameter adds to a call: arguments, locals and cleanups. -/
structure CallParts where
  args : List String
  locals : List String
  cleanups : List String
  deriving Inhabited

/-- The argument, locals and cleanups for one parameter. -/
def paramParts (p : SignatureParam) : CallParts :=
  match p.ty.adaType? with
  | none => ⟨[], [], []⟩
  | some ty =>
    let toC := ty.mapping.toC
    let var := "Tmp_" ++ p.name
    if p.ty.pointerLike && !toC.isIdentity then
      ⟨[var], [var ++ " : " ++ ty.mapping.foreign ++ ";"],
        [p.name ++ " := " ++ ty.mapping.fromC.apply var ++ ";"]⟩
    else
      match toC.temporary with
      | some tmp =>
        ⟨[toC.apply var], toC.localDecl.toList ++ [var ++ " : " ++ tmp.ty ++ " := " ++ fill tmp.init p.name ++ ";"],
          (tmp.cleanup.map (fill · var)).toList⟩
      | none => ⟨[toC.apply p.name], toC.localDecl.toList, []⟩

/-- The call to the imported C function of a signature, passing `receiver` first if given. -/
def lowerCall (s : Signature) (receiver : Option String) : LoweredCall :=
  let returns : Option String := match s.kind, s.returns with
    | .constructor, _ => some "System.Address"
    | _, .value d => d.adaType?.map (·.mapping.foreign)
    | _, .void => none
  let selfParams : List AdaParam := receiver.toList.map fun _ => ⟨"Self", .inMode, "System.Address", none⟩
  let internal : Subprogram :=
    ⟨"Internal", selfParams ++ s.parameters.map SignatureParam.foreignParam, returns, [],
      .imported s.nativeId⟩
  let parts := s.parameters.map paramParts
  let args := receiver.toList ++ parts.flatMap CallParts.args
  let expression := if args.isEmpty then "Internal" else "Internal (" ++ ", ".intercalate args ++ ")"
  ⟨internal, expression, dedupNeighbours (parts.flatMap CallParts.locals), parts.flatMap CallParts.cleanups⟩

namespace SignatureBuilder

/-- A constructor's pair: the allocating procedure, then `Initialize`. -/
def constructor (b : SignatureBuilder) (cls : ClassNames) (s : Signature) : List Subprogram :=
  let initName := replaceAll s.adaName (b.naming.case b.naming.space ++ "_New") "Initialize"
  let call := lowerCall s none
  let publicParams := s.parameters.map SignatureParam.publicParam
  let initializer : Subprogram :=
    ⟨initName, ⟨"Self", .accessMode, cls.record ++ "'Class", none⟩ :: publicParams, none, [],
      .code [call.internal] call.locals (("Set_Object (Self, " ++ call.expression ++ ");") :: call.cleanups)⟩
  let args := ", ".intercalate ("Self" :: s.parameters.map (·.name))
  let allocate : Subprogram :=
    ⟨s.adaName, ⟨"Self", .outMode, cls.typeName, none⟩ :: publicParams, none, s.docParagraphs,
      .code [] [] ["Self := new " ++ cls.record ++ ";", initName ++ " (" ++ args ++ ");"]⟩
  [allocate, initializer]

/-- A method's wrapper, taking the object first. -/
def method (_b : SignatureBuilder) (cls : ClassNames) (s : Signature) : Subprogram :=
  let call := lowerCall s (some "Get_Object (Self)")
  let params := ⟨"Self", .accessMode, cls.record, none⟩ :: s.parameters.map SignatureParam.publicParam
  match s.returnedType with
  | none =>
    ⟨s.adaName, params, none, s.docParagraphs,
      .code [call.internal] call.locals ((call.expression ++ ";") :: call.cleanups)⟩
  | some t =>
    let fromC := t.mapping.fromC
    let locals := call.locals ++ fromC.localDecl.toList
    let returns := match s.returns with
      | .value d => (d.adaType?.map (·.mapping.result)).getD ""
      | .void => ""
    if call.cleanups.isEmpty then
      ⟨s.adaName, params, some returns, s.docParagraphs,
        .code [call.internal] locals ["return " ++ fromC.apply call.expression ++ ";"]⟩
    else
      ⟨s.adaName, params, some returns, s.docParagraphs,
        .code [call.internal] (locals ++ ["Tmp_Return : " ++ t.mapping.foreign ++ ";"])
          (("Tmp_Return := " ++ call.expression ++ ";") :: call.cleanups ++
            ["return " ++ fromC.apply "Tmp_Return" ++ ";"])⟩

/-- The profile a handler of a signal must have. -/
def signalHandler (_b : SignatureBuilder) (cls : ClassNames) (s : Signature) : Subprogram :=
  let returns := match s.returns with
    | .value d => some ((d.adaType?.map (·.mapping.result)).getD "")
    | .void => none
  ⟨"Handler", ⟨"Self", .accessMode, cls.record ++ "'Class", none⟩ ::
    s.parameters.map SignatureParam.publicParam, returns, [], .noBody⟩

/-- The function giving the class's type, imported from its native function; nothing when the
class has none, a skip when the overrides do not bind it. -/
def getType (b : SignatureBuilder) (c : GirClass) : Except Skip (Option Subprogram) :=
  match c.getType with
  | none => .ok none
  | some sym =>
    if !b.overrides.bind sym then .error .notBound
    else
      let name := resolveName (b.overrides.adaName sym) none "Get_Type"
      .ok (some ⟨name, [], some "Glib.GType", [], .imported sym⟩)

end SignatureBuilder

end GirAda.Ada
