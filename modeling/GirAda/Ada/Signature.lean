import GirAda.Ada.Resolve
import GirAda.Ada.Subprogram
import GirAda.Override.Registry

/-!
# Signatures

A callable whose every type resolved, with its final Ada name. `build` refuses a callable that
the overrides do not bind, then one with a parameter whose type cannot be bound (the first such
parameter decides), then a method or signal whose return type cannot be bound; a constructor's
return value is never looked at.

Parameter names are Ada parameter names, modes follow the types (`out` for pointer-like ones)
and defaults come from the overrides. Constructors are named `Ns_Title`, methods by their title,
signals `Signal_Name`, unless the overrides rename them.
-/

namespace GirAda.Ada

open GirAda.Gir GirAda.Override

/-- A parameter whose type resolved. -/
structure SignatureParam where
  name : String
  nativeName : String
  ty : Descriptor
  mode : Mode
  default : Option String
  doc : Option String
  deriving DecidableEq, Repr, Inhabited

namespace SignatureParam

/-- The parameter of a native name and type, its mode following the type. -/
def make (n : Naming) (nativeName : String) (ty : Descriptor) (default doc : Option String) :
    SignatureParam :=
  ⟨n.parameter nativeName, nativeName, ty, Mode.forType ty, default, doc⟩

/-- The parameter in the public profile: the public type and the default. -/
def publicParam (p : SignatureParam) : AdaParam :=
  ⟨p.name, p.mode, (p.ty.adaType?.map (·.mapping.param)).getD "", p.default⟩

/-- The parameter in the imported profile: the foreign type, no default. -/
def foreignParam (p : SignatureParam) : AdaParam :=
  ⟨p.name, p.mode, (p.ty.adaType?.map (·.mapping.foreign)).getD "", none⟩

end SignatureParam

/-- A callable whose every type resolved, with its final Ada name. -/
structure Signature where
  kind : CallableKind
  nativeId : String
  nativeName : String
  adaName : String
  parameters : List SignatureParam
  returns : ReturnType
  doc : Option String
  deprecation : Option Deprecation
  deriving Repr, Inhabited

/-- Drop repeated neighbours of a list. -/
def dedupNeighbours : List String → List String
  | a :: b :: rest => if a == b then dedupNeighbours (b :: rest) else a :: dedupNeighbours (b :: rest)
  | l => l

namespace Signature

/-- The resolved return type, if a value is returned. -/
def returnedType (s : Signature) : Option AdaType :=
  match s.returns with
  | .value d => d.adaType?
  | .void => none

/-- The packages the code for the signature refers to, sorted, each once. -/
def packages (s : Signature) : List String :=
  let types := s.parameters.filterMap (·.ty.adaType?) ++ s.returnedType.toList
  dedupNeighbours ((types.flatMap (·.mapping.packages)).mergeSort (fun a b => decide (a ≤ b)))

/-- Documentation paragraphs: the description, the deprecation notice, then one paragraph per
documented parameter. -/
def docParagraphs (s : Signature) : List String :=
  s.doc.toList ++
    (s.deprecation.map fun d =>
      "Deprecated" ++ (d.version.map (" since " ++ ·)).getD "" ++ ", use " ++ d.replacement).toList ++
    s.parameters.filterMap fun p => p.doc.map fun d => "\"" ++ p.name ++ "\": " ++ d

end Signature

/-- What building signatures needs: the resolver and the overrides. -/
structure SignatureBuilder where
  resolver : Resolver
  overrides : Registry
  deriving Inhabited

namespace SignatureBuilder

/-- The naming in use. -/
def naming (b : SignatureBuilder) : Naming := b.resolver.naming

/-- The signature parameters of a callable's parameters; the first that cannot be bound decides. -/
def params (b : SignatureBuilder) (id : String) : List Parameter → Except Skip (List SignatureParam)
  | [] => .ok []
  | p :: ps => do
    let ty ← b.resolver.resolveFor p.name p.shape
    let rest ← b.params id ps
    return SignatureParam.make b.naming p.name ty (b.overrides.defaultFor id p.name) p.doc :: rest

/-- The Ada name of a callable: the override's, or one derived from its kind and name. -/
def adaNameOf (b : SignatureBuilder) (c : Callable) : String :=
  let rename := b.overrides.adaName c.identifier
  match c.kind with
  | .constructor => resolveName rename none (b.naming.case b.naming.space ++ "_" ++ title c.name)
  | .method => resolveName rename (some (title c.name)) (title c.name)
  | .signal => resolveName rename none ("Signal_" ++ b.naming.case c.name)

/-- The signature of a callable, or why it is not bound. -/
def build (b : SignatureBuilder) (c : Callable) : Except Skip Signature := do
  let id := c.identifier
  if !b.overrides.bind id then throw .notBound
  let parameters ← b.params id c.parameters
  let returns ← match c.kind with
    | .constructor => pure .void
    | _ => b.resolver.resolveReturn c.returnValue
  return {
    kind := c.kind, nativeId := id, nativeName := c.name, adaName := b.adaNameOf c
    parameters, returns, doc := c.doc, deprecation := c.deprecation }

end SignatureBuilder

end GirAda.Ada
