import GirAda.Ada.Descriptor

/-!
# Subprograms

The Ada declarations the generator emits, before they are written out: procedures and
functions with their parameters, documentation paragraphs and body. A body is absent (a profile
only), an import of a C symbol, or code: nested subprograms, local declarations and statements.
-/

namespace GirAda.Ada

/-- The keyword of a mode with its trailing blank; the default mode `in` is not written. -/
def Mode.keyword : Mode → String
  | .inMode => ""
  | .outMode => "out "
  | .accessMode => "access "

/-- A parameter of an Ada subprogram. -/
structure AdaParam where
  name : String
  mode : Mode
  ty : String
  default : Option String
  deriving DecidableEq, Repr, Inhabited

/-- The text of a parameter: `Name : [out |access ]Type[ := Default]`. -/
def AdaParam.render (p : AdaParam) : String :=
  p.name ++ " : " ++ p.mode.keyword ++ p.ty ++
    match p.default with
    | some d => " := " ++ d
    | none => ""

mutual
/-- The body of a subprogram. -/
inductive Body where
  | noBody
  | imported (symbol : String)
  | code (nested : List Subprogram) (locals statements : List String)

/-- A procedure, or a function when it returns a type. -/
structure Subprogram where
  name : String
  parameters : List AdaParam
  returns : Option String
  doc : List String
  body : Body
end

namespace Subprogram

/-- A procedure without parameters, documentation or body. -/
def procedure (name : String) : Subprogram := ⟨name, [], none, [], .noBody⟩

/-- A function without parameters, documentation or body. -/
def function (name returns : String) : Subprogram := ⟨name, [], some returns, [], .noBody⟩

instance : Inhabited Subprogram := ⟨procedure ""⟩

/-- Whether it is a function. -/
def isFunction (s : Subprogram) : Bool := s.returns.isSome

/-- Whether it has code of its own. -/
def hasBody (s : Subprogram) : Bool :=
  match s.body with
  | .code .. => true
  | _ => false

end Subprogram

end GirAda.Ada
