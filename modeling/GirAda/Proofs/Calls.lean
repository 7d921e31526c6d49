import GirAda.Ada.Lowering
import GirAda.Proofs.Signatures

/-!
# Lowered calls

`lowerCall` turns a signature into the imported `Internal` subprogram and a call to it. The
imported profile and the arguments are built by different code from the same parameters, so
the question is whether they line up. For a signature that `build` produced they do: every
parameter resolved to a type that can be bound, so each one gives exactly one argument, and its
mode is `out` exactly when its type is pointer-like. The arguments are then the receiver, if
any, followed by one argument per parameter in order, passed as `Passes` says: a converted `out`
parameter through a foreign variable copied back once after the call, a conversion through a
temporary from a variable initialized from the value, anything else converted directly.

Main statement: `lowered_call_lines_up`.
-/

namespace GirAda.Ada

open GirAda.Gir GirAda.Override GirAda.Text

theorem mem_dedupNeighbours {x : String} {l : List String} : x ∈ dedupNeighbours l ↔ x ∈ l := by
  fun_induction dedupNeighbours l with
  | case1 a b rest hab ih =>
    have : a = b := beq_iff_eq.1 hab
    subst this
    simp [ih]
  | case2 a b rest hab ih => simp [ih]
  | case3 l => rfl

section Parts

variable {p : SignatureParam} {ty : AdaType} (hty : p.ty.adaType? = some ty)
include hty

/-- A pointer-like parameter whose conversion is not the identity goes through the foreign
variable `Tmp_P`, copied back after the call. -/
theorem paramParts_of_converted (hpl : p.ty.pointerLike = true)
    (hid : ty.mapping.toC.isIdentity = false) :
    paramParts p = ⟨["Tmp_" ++ p.name], ["Tmp_" ++ p.name ++ " : " ++ ty.mapping.foreign ++ ";"],
      [p.name ++ " := " ++ ty.mapping.fromC.apply ("Tmp_" ++ p.name) ++ ";"]⟩ := by
  simp [paramParts, hty, hpl, hid]

/-- Another parameter converted through a temporary passes the conversion of `Tmp_P`,
initialized from the value. -/
theorem paramParts_of_temporary (hconv : (p.ty.pointerLike && !ty.mapping.toC.isIdentity) = false)
    {tmp : Temporary} (htmp : ty.mapping.toC.temporary = some tmp) :
    paramParts p = ⟨[ty.mapping.toC.apply ("Tmp_" ++ p.name)],
      ty.mapping.toC.localDecl.toList ++
        ["Tmp_" ++ p.name ++ " : " ++ tmp.ty ++ " := " ++ fill tmp.init p.name ++ ";"],
      (tmp.cleanup.map (fill · ("Tmp_" ++ p.name))).toList⟩ := by
  simp only [paramParts, hty, hconv, htmp]
  rfl

/-- Any other parameter is converted directly. -/
theorem paramParts_of_direct (hconv : (p.ty.pointerLike && !ty.mapping.toC.isIdentity) = false)
    (htmp : ty.mapping.toC.temporary = none) :
    paramParts p = ⟨[ty.mapping.toC.apply p.name], ty.mapping.toC.localDecl.toList, []⟩ := by
  simp only [paramParts, hty, hconv, htmp]
  rfl

end Parts

/-- How a call lowers a parameter whose type resolved: to the formal `formal` of the imported
subprogram, with the parameter's name and mode and the foreign type, and to the argument `arg`,
given the local declarations `locals` of the call. A converted `out` parameter goes through the
foreign variable `Tmp_P`, declared and copied back by its one cleanup; another parameter converted
through a temporary goes as the conversion of `Tmp_P`, declared and initialized from the value,
with the temporary's cleanup if it has one; any other parameter is converted directly. -/
def Lowers (locals : List String) (p : SignatureParam) (formal : AdaParam) (arg : String) : Prop :=
  ∃ ty, p.ty.adaType? = some ty ∧ formal = ⟨p.name, p.mode, ty.mapping.foreign, none⟩ ∧
    (p.mode = .outMode → ty.mapping.toC.isIdentity = false →
      arg = "Tmp_" ++ p.name ∧ "Tmp_" ++ p.name ++ " : " ++ ty.mapping.foreign ++ ";" ∈ locals ∧
      (paramParts p).cleanups = [p.name ++ " := " ++ ty.mapping.fromC.apply ("Tmp_" ++ p.name) ++ ";"]) ∧
    (∀ tmp, ¬(p.mode = .outMode ∧ ty.mapping.toC.isIdentity = false) →
      ty.mapping.toC.temporary = some tmp →
      arg = ty.mapping.toC.apply ("Tmp_" ++ p.name) ∧
      "Tmp_" ++ p.name ++ " : " ++ tmp.ty ++ " := " ++ fill tmp.init p.name ++ ";" ∈ locals ∧
      (paramParts p).cleanups = (tmp.cleanup.map (fill · ("Tmp_" ++ p.name))).toList) ∧
    (¬(p.mode = .outMode ∧ ty.mapping.toC.isIdentity = false) → ty.mapping.toC.temporary = none →
      arg = ty.mapping.toC.apply p.name ∧ (paramParts p).cleanups = [])

/-- More local declarations lower a parameter as well. -/
theorem Lowers.mono {locals locals' : List String} (h : ∀ x ∈ locals, x ∈ locals')
    {p : SignatureParam} {formal : AdaParam} {arg : String} (hp : Lowers locals p formal arg) :
    Lowers locals' p formal arg := by
  obtain ⟨ty, hty, hformal, hout, htmp, hplain⟩ := hp
  refine ⟨ty, hty, hformal, fun h₁ h₂ => ?_, fun tmp h₁ h₂ => ?_, hplain⟩
  · obtain ⟨ha, hl, hc⟩ := hout h₁ h₂
    exact ⟨ha, h _ hl, hc⟩
  · obtain ⟨ha, hl, hc⟩ := htmp tmp h₁ h₂
    exact ⟨ha, h _ hl, hc⟩

/-- A parameter whose type resolved, with the mode its type calls for, gives exactly one
argument, lowered as `Lowers` says with the locals it declares itself. -/
theorem paramParts_lowers {p : SignatureParam} {ty : AdaType} (hty : p.ty.adaType? = some ty)
    (hmode : p.mode = .outMode ↔ p.ty.pointerLike = true) :
    ∃ arg, (paramParts p).args = [arg] ∧ Lowers (paramParts p).locals p p.foreignParam arg := by
  have hformal : p.foreignParam = ⟨p.name, p.mode, ty.mapping.foreign, none⟩ := by
    simp [SignatureParam.foreignParam, hty]
  by_cases hconv : p.ty.pointerLike = true ∧ ty.mapping.toC.isIdentity = false
  · -- a converted `out` parameter: the foreign variable is the argument
    obtain ⟨hpl, hid⟩ := hconv
    have hparts := paramParts_of_converted hty hpl hid
    have hout : p.mode = .outMode := hmode.2 hpl
    refine ⟨_, by rw [hparts], ty, hty, hformal,
      fun _ _ => ⟨rfl, by simp [hparts], by rw [hparts]⟩,
      fun _ h => absurd ⟨hout, hid⟩ h, fun h => absurd ⟨hout, hid⟩ h⟩
  · have hnot : ¬(p.mode = .outMode ∧ ty.mapping.toC.isIdentity = false) :=
      fun ⟨hout, hid⟩ => hconv ⟨hmode.1 hout, hid⟩
    have hcond : (p.ty.pointerLike && !ty.mapping.toC.isIdentity) = false := by
      simpa using hconv
    cases htmp : ty.mapping.toC.temporary with
    | some tmp =>
      have hparts := paramParts_of_temporary hty hcond htmp
      refine ⟨_, by rw [hparts], ty, hty, hformal, fun h₁ h₂ => absurd ⟨h₁, h₂⟩ hnot,
        fun tmp' _ h => ?_, fun _ h => (nomatch htmp.symm.trans h)⟩
      obtain rfl : tmp' = tmp := Option.some.inj (h.symm.trans htmp)
      exact ⟨rfl, by simp [hparts], by rw [hparts]⟩
    | none =>
      have hparts := paramParts_of_direct hty hcond htmp
      exact ⟨_, by rw [hparts], ty, hty, hformal, fun h₁ h₂ => absurd ⟨h₁, h₂⟩ hnot,
        fun _ _ h => (nomatch htmp.symm.trans h), fun _ _ => ⟨rfl, by rw [hparts]⟩⟩

/-- The parameters of a built signature resolved to types that can be bound, and each has mode
`out` exactly when its type is pointer-like. -/
theorem built_parameters {b : SignatureBuilder} {c : Callable} {S : Signature}
    (hS : b.build c = .ok S) :
    ∀ p ∈ S.parameters, p.ty.bindable = true ∧ (p.mode = .outMode ↔ p.ty.pointerLike = true) := by
  obtain ⟨-, hparams, -⟩ := SignatureBuilder.build_eq_ok hS
  obtain ⟨hall, hmap⟩ := SignatureBuilder.params_eq_ok hparams
  intro p hp
  rw [hmap, List.mem_map] at hp
  obtain ⟨q, hq, rfl⟩ := hp
  obtain ⟨-, -, -, hbind, hmode, -⟩ := SignatureBuilder.paramOf_spec (hall q hq)
  exact ⟨hbind, hmode⟩

/-- Parameters that resolved, with the modes their types call for, give one argument each: paired
in order with their formals, each pair is lowered as `Lowers` says with the locals of all of
them. -/
theorem forall₂_lowers {ps : List SignatureParam}
    (h : ∀ p ∈ ps, p.ty.bindable = true ∧ (p.mode = .outMode ↔ p.ty.pointerLike = true))
    {locals : List String}
    (hlocals : ∀ x ∈ (ps.map paramParts).flatMap CallParts.locals, x ∈ locals) :
    ∃ formals : List (AdaParam × String),
      formals.map Prod.fst = ps.map SignatureParam.foreignParam ∧
      formals.map Prod.snd = (ps.map paramParts).flatMap CallParts.args ∧
      List.Forall₂ (fun p fa => Lowers locals p fa.1 fa.2) ps formals := by
  induction ps with
  | nil => exact ⟨[], rfl, rfl, .nil⟩
  | cons p ps ih =>
    obtain ⟨hbind, hmode⟩ := h p (List.mem_cons_self ..)
    obtain ⟨ty, hty⟩ := Option.isSome_iff_exists.1 hbind
    obtain ⟨arg, hargs, hlow⟩ := paramParts_lowers hty hmode
    have hlocals' : ∀ x ∈ (ps.map paramParts).flatMap CallParts.locals, x ∈ locals := by
      intro x hx
      apply hlocals
      rw [List.map_cons, List.flatMap_cons]
      exact List.mem_append_right _ hx
    obtain ⟨formals, hfst, hsnd, hrest⟩ := ih (fun q hq => h q (List.mem_cons_of_mem p hq)) hlocals'
    refine ⟨(p.foreignParam, arg) :: formals, by simp [hfst], ?_, ?_⟩
    · simp [hsnd, hargs]
    · exact .cons (hlow.mono fun x hx => hlocals x (by simp [hx])) hrest

/-- The call to the imported subprogram lines up with its profile: the receiver, then one
argument per parameter lowered with its formal as `Lowers` says, then the cleanups in order. -/
theorem lowered_call_lines_up {b : SignatureBuilder} {c : Callable} {S : Signature}
    (hS : b.build c = .ok S) (r : Option String) :
    let call := lowerCall S r
    call.internal.name = "Internal" ∧ call.internal.body = .imported S.nativeId ∧
    ∃ formals : List (AdaParam × String),
      call.internal.parameters =
        r.toList.map (fun _ => ⟨"Self", .inMode, "System.Address", none⟩) ++ formals.map Prod.fst ∧
      call.expression = (if r.toList ++ formals.map Prod.snd = [] then "Internal"
        else "Internal (" ++ ", ".intercalate (r.toList ++ formals.map Prod.snd) ++ ")") ∧
      List.Forall₂ (fun p fa => Lowers call.locals p fa.1 fa.2) S.parameters formals ∧
      call.cleanups = S.parameters.flatMap fun p => (paramParts p).cleanups := by
  intro call
  have hlocals : ∀ x ∈ (S.parameters.map paramParts).flatMap CallParts.locals, x ∈ call.locals :=
    fun _ hx => mem_dedupNeighbours.2 hx
  obtain ⟨formals, hfst, hsnd, hlow⟩ := forall₂_lowers (built_parameters hS) hlocals
  refine ⟨rfl, rfl, formals, by rw [hfst]; rfl, ?_, hlow, by simp [call, lowerCall, List.flatMap_map]⟩
  simp only [call, lowerCall, hsnd, List.isEmpty_iff]

/-- A method of a widget with a converted `out` Boolean, a string and an integer: the object goes
first, then the foreign variable `Tmp_Active`, the temporary `Tmp_Label` and `Width` itself. -/
theorem get_state_call_lines_up :
    let b : SignatureBuilder := ⟨⟨⟨"Gtk", Index.empty, []⟩, Naming.new "Gtk", TypeTable.default⟩,
      Registry.empty⟩
    let active : Parameter := ⟨"active", .direct ⟨some "gboolean", some "gboolean*"⟩, none⟩
    let label : Parameter := ⟨"label", .direct ⟨some "utf8", some "const gchar*"⟩, none⟩
    let width : Parameter := ⟨"width", .direct ⟨some "gint", some "gint"⟩, none⟩
    let c : Callable :=
      ⟨.method, "get_state", some "gtk_widget_get_state", [active, label, width], none, none, none⟩
    ∃ S, b.build c = .ok S ∧
      let r := some "Get_Object (Self)"
      let call := lowerCall S r
      call.internal.name = "Internal" ∧ call.internal.body = .imported S.nativeId ∧
      ∃ formals : List (AdaParam × String),
        call.internal.parameters =
          r.toList.map (fun _ => ⟨"Self", .inMode, "System.Address", none⟩) ++ formals.map Prod.fst ∧
        call.expression = (if r.toList ++ formals.map Prod.snd = [] then "Internal"
          else "Internal (" ++ ", ".intercalate (r.toList ++ formals.map Prod.snd) ++ ")") ∧
        List.Forall₂ (fun p fa => Lowers call.locals p fa.1 fa.2) S.parameters formals ∧
        call.cleanups = S.parameters.flatMap fun p => (paramParts p).cleanups := by
  intro b active label width c
  obtain ⟨S, hS⟩ : ∃ S, b.build c = .ok S := ⟨_, rfl⟩
  exact ⟨S, hS, lowered_call_lines_up hS _⟩

example :
    ((SignatureBuilder.build ⟨⟨⟨"Gtk", Index.empty, []⟩, Naming.new "Gtk", TypeTable.default⟩,
      Registry.empty⟩ ⟨.method, "get_state", some "gtk_widget_get_state",
        [⟨"active", .direct ⟨some "gboolean", some "gboolean*"⟩, none⟩,
         ⟨"label", .direct ⟨some "utf8", some "const gchar*"⟩, none⟩,
         ⟨"width", .direct ⟨some "gint", some "gint"⟩, none⟩], none, none, none⟩).toOption.map
      fun S => let call := lowerCall S (some "Get_Object (Self)"); (call.expression, call.cleanups)) =
    some ("Internal (Get_Object (Self), Tmp_Active, Tmp_Label, Width)",
      ["Active := Boolean'Val (Tmp_Active);", "Free (Tmp_Label);"]) := by
  decide +kernel

end GirAda.Ada
