import Mathlib.Data.List.Forall2
import GirAda.Ada.Signature

/-!
# Building signatures

`SignatureBuilder.build` has three sources of failure, looked at in a fixed order: the overrides,
which may refuse to bind the callable; then the parameters, in document order, where the first
whose type cannot be bound decides; then, for methods and signals only, the return value. Only the
overrides say `notBound`, so that reason is given exactly when they refuse.

On success every parameter of the document has one signature parameter, in order, with the
descriptor its shape classifies to (one that can be bound), its Ada name, the mode its type
calls for and the default the overrides give it.

Main statement: `build_outcome`.
-/

namespace GirAda.Ada

open GirAda.Gir GirAda.Override

namespace Resolver

variable {r : Resolver} {what : String} {s : Shape} {d : Descriptor} {e : Skip}

theorem resolve_eq_some_iff : r.resolve s = some d ↔ r.classify s = d ∧ d.bindable = true := by
  unfold resolve
  by_cases h : (r.classify s).bindable = true
  · simp only [h, if_true, Option.some.injEq]
    constructor
    · rintro rfl
      exact ⟨rfl, h⟩
    · rintro ⟨rfl, -⟩
      rfl
  · simp only [h, Bool.false_eq_true, if_false, reduceCtorEq, false_iff]
    rintro ⟨rfl, hd⟩
    exact h hd

/-- A shape resolves for a parameter exactly when it classifies to a descriptor that can be
bound, and then to that descriptor. -/
theorem resolveFor_eq_ok_iff : r.resolveFor what s = .ok d ↔ r.resolve s = some d := by
  unfold resolveFor
  cases h : r.resolve s with
  | none => cases s <;> simp
  | some d' => simp

/-- A shape that cannot be bound gives `varargs` when it is a variable argument list and an
unknown type, named after the parameter, otherwise. -/
theorem resolveFor_eq_error_iff :
    r.resolveFor what s = .error e ↔
      r.resolve s = none ∧ e = if s = .varargs then .varargs else .unknownType what := by
  unfold resolveFor
  cases h : r.resolve s with
  | none => cases s <;> simp [eq_comm]
  | some d' => simp

/-- A return value that cannot be bound is a variable argument list, of an unknown type, or an
array. -/
theorem resolveReturn_error {rv : Option Shape} (h : r.resolveReturn rv = .error e) :
    e = .varargs ∨ e = .unknownType "return" ∨ e = .arrayReturn := by
  unfold resolveReturn at h
  split at h
  · cases h
  · cases h
  · next s _ =>
    cases hs : r.resolveFor "return" s with
    | error e' =>
      simp only [hs, bind, Except.bind, Except.error.injEq] at h
      obtain ⟨-, he'⟩ := resolveFor_eq_error_iff.1 hs
      subst h
      split at he' <;> simp [he']
    | ok d' =>
      simp only [hs, bind, Except.bind] at h
      split at h
      · cases h
        exact .inr (.inr rfl)
      · cases h

end Resolver

namespace SignatureBuilder

variable (b : SignatureBuilder) (id : String)

/-- The signature parameter the builder makes of a document parameter whose type resolved. -/
def paramOf (p : Parameter) : SignatureParam :=
  SignatureParam.make b.naming p.name (b.resolver.classify p.shape) (b.overrides.defaultFor id p.name)
    p.doc

variable {b id} in
/-- A parameter that resolves puts its signature parameter in front of the others'. -/
theorem params_cons_of_ok {p : Parameter} {ps : List Parameter} {d : Descriptor}
    (hd : b.resolver.resolveFor p.name p.shape = .ok d) :
    b.params id (p :: ps) = (b.params id ps).map (b.paramOf id p :: ·) := by
  obtain ⟨hclass, -⟩ := Resolver.resolve_eq_some_iff.1 (Resolver.resolveFor_eq_ok_iff.1 hd)
  cases hrest : b.params id ps <;>
    simp [params, hd, hrest, bind, Except.bind, pure, Except.pure, Except.map, paramOf, hclass]

variable {b id} in
/-- A parameter that does not resolve fails the parameters with its own reason. -/
theorem params_cons_of_error {p : Parameter} {ps : List Parameter} {e : Skip}
    (he : b.resolver.resolveFor p.name p.shape = .error e) : b.params id (p :: ps) = .error e := by
  simp [params, he, bind, Except.bind]

/-- Parameters that all resolve give one signature parameter each, in order. -/
theorem params_of_resolved {ps : List Parameter}
    (h : ∀ q ∈ ps, ∃ d, b.resolver.resolveFor q.name q.shape = .ok d) :
    b.params id ps = .ok (ps.map (b.paramOf id)) := by
  induction ps with
  | nil => rfl
  | cons p ps ih =>
    obtain ⟨d, hd⟩ := h p (List.mem_cons_self ..)
    rw [params_cons_of_ok hd, ih fun q hq => h q (List.mem_cons_of_mem p hq)]
    rfl

/-- The first parameter that does not resolve decides the failure. -/
theorem params_of_first_failure {pre : List Parameter} {p : Parameter} (post : List Parameter)
    {e : Skip} (hpre : ∀ q ∈ pre, ∃ d, b.resolver.resolveFor q.name q.shape = .ok d)
    (hp : b.resolver.resolveFor p.name p.shape = .error e) :
    b.params id (pre ++ p :: post) = .error e := by
  induction pre with
  | nil => exact params_cons_of_error hp
  | cons q qs ih =>
    obtain ⟨d, hd⟩ := hpre q (List.mem_cons_self ..)
    rw [List.cons_append, params_cons_of_ok hd, ih fun q' hq' => hpre q' (List.mem_cons_of_mem q hq')]
    rfl

/-- A failure of the parameters is the failure of one of them. -/
theorem params_error {ps : List Parameter} {e : Skip} (h : b.params id ps = .error e) :
    ∃ p ∈ ps, b.resolver.resolveFor p.name p.shape = .error e := by
  induction ps with
  | nil => cases h
  | cons p ps ih =>
    cases hp : b.resolver.resolveFor p.name p.shape with
    | error e' =>
      rw [params_cons_of_error hp, Except.error.injEq] at h
      exact ⟨p, List.mem_cons_self .., h ▸ hp⟩
    | ok d =>
      rw [params_cons_of_ok hp] at h
      cases hrest : b.params id ps with
      | error e' =>
        rw [hrest] at h
        cases h
        obtain ⟨q, hq, hqe⟩ := ih hrest
        exact ⟨q, List.mem_cons_of_mem p hq, hqe⟩
      | ok _ =>
        rw [hrest] at h
        cases h

variable {b id}

variable (p : Parameter)

@[simp] theorem nativeName_paramOf : (b.paramOf id p).nativeName = p.name := by
  simp [paramOf, SignatureParam.make]

@[simp] theorem name_paramOf : (b.paramOf id p).name = b.naming.parameter p.name := by
  simp [paramOf, SignatureParam.make]

@[simp] theorem ty_paramOf : (b.paramOf id p).ty = b.resolver.classify p.shape := by
  simp [paramOf, SignatureParam.make]

@[simp] theorem mode_paramOf : (b.paramOf id p).mode = Mode.forType (b.resolver.classify p.shape) := by
  simp [paramOf, SignatureParam.make]

@[simp] theorem default_paramOf : (b.paramOf id p).default = b.overrides.defaultFor id p.name := by
  simp [paramOf, SignatureParam.make]

variable {p}

/-- What the builder makes of each parameter: its native and Ada names, the descriptor its shape
classifies to, which can be bound, the mode its type calls for and its default. -/
theorem paramOf_spec (h : ∃ d, b.resolver.resolveFor p.name p.shape = .ok d) :
    let q := b.paramOf id p
    q.nativeName = p.name ∧ q.name = b.naming.parameter p.name ∧
      q.ty = b.resolver.classify p.shape ∧ q.ty.bindable = true ∧
      (q.mode = .outMode ↔ q.ty.pointerLike = true) ∧ q.default = b.overrides.defaultFor id p.name := by
  obtain ⟨d, hd⟩ := h
  obtain ⟨hclass, hbind⟩ := Resolver.resolve_eq_some_iff.1 (Resolver.resolveFor_eq_ok_iff.1 hd)
  simp only [nativeName_paramOf, name_paramOf, ty_paramOf, mode_paramOf, default_paramOf, hclass,
    hbind, true_and, and_true]
  cases hpl : d.pointerLike <;> simp [Mode.forType, hpl]

/-- Parameters that succeed all resolve, and give one signature parameter each, in order. -/
theorem params_eq_ok {ps : List Parameter} {qs : List SignatureParam} (h : b.params id ps = .ok qs) :
    (∀ q ∈ ps, ∃ d, b.resolver.resolveFor q.name q.shape = .ok d) ∧ qs = ps.map (b.paramOf id) := by
  induction ps generalizing qs with
  | nil =>
    cases h
    exact ⟨by simp, rfl⟩
  | cons p ps ih =>
    cases hp : b.resolver.resolveFor p.name p.shape with
    | error e =>
      rw [params_cons_of_error hp] at h
      cases h
    | ok d =>
      rw [params_cons_of_ok hp] at h
      cases hrest : b.params id ps with
      | error e =>
        rw [hrest] at h
        cases h
      | ok qs' =>
        rw [hrest] at h
        cases h
        obtain ⟨hall, rfl⟩ := ih hrest
        refine ⟨?_, rfl⟩
        simpa [hp] using hall

/-! ## The outcomes of `build` -/

variable {c : Callable} {e : Skip}

theorem build_of_not_bound (h : b.overrides.bind c.identifier = false) :
    b.build c = .error .notBound := by
  simp [build, h]
  rfl

theorem build_of_params_error (hb : b.overrides.bind c.identifier = true)
    (hp : b.params c.identifier c.parameters = .error e) : b.build c = .error e := by
  simp [build, hb, hp, bind, Except.bind]

/-- A constructor whose parameters resolve is built, returning nothing. -/
theorem build_constructor {ps : List SignatureParam} (hb : b.overrides.bind c.identifier = true)
    (hp : b.params c.identifier c.parameters = .ok ps) (hk : c.kind = .constructor) :
    ∃ S, b.build c = .ok S ∧ S.parameters = ps ∧ S.returns = .void := by
  simp only [build, hb, hp, hk, bind, Except.bind, pure, Except.pure]
  exact ⟨_, rfl, rfl, rfl⟩

/-- A method or signal whose parameters resolve is built exactly when its return value is. -/
theorem build_of_returns {ps : List SignatureParam} (hb : b.overrides.bind c.identifier = true)
    (hp : b.params c.identifier c.parameters = .ok ps) (hk : c.kind ≠ .constructor) :
    (∀ e, b.resolver.resolveReturn c.returnValue = .error e → b.build c = .error e) ∧
    (∀ rt, b.resolver.resolveReturn c.returnValue = .ok rt →
      ∃ S, b.build c = .ok S ∧ S.parameters = ps ∧ S.returns = rt) := by
  obtain ⟨kind, name, cid, params, rv, doc, dep⟩ := c
  cases kind with
  | constructor => exact absurd rfl hk
  | method | signal =>
    refine ⟨fun e he => ?_, fun rt hrt => ?_⟩
    · simp_all [build, bind, Except.bind]
    · simp only [build, Bool.not_eq_true', hb, hp, hrt, bind, Except.bind, pure, Except.pure] at *
      exact ⟨_, rfl, rfl, rfl⟩

/-- A built signature: the overrides bind the callable, its parameters resolve to the signature's,
and its return value is nothing for a constructor and the resolved one otherwise. -/
theorem build_eq_ok {S : Signature} (h : b.build c = .ok S) :
    b.overrides.bind c.identifier = true ∧ b.params c.identifier c.parameters = .ok S.parameters ∧
      (c.kind = .constructor → S.returns = .void) ∧
      (c.kind ≠ .constructor → b.resolver.resolveReturn c.returnValue = .ok S.returns) := by
  cases hb : b.overrides.bind c.identifier
  · rw [build_of_not_bound hb] at h
    cases h
  cases hp : b.params c.identifier c.parameters with
  | error e =>
    rw [build_of_params_error hb hp] at h
    cases h
  | ok ps =>
    by_cases hk : c.kind = .constructor
    · obtain ⟨S', hS', hps, hret⟩ := build_constructor hb hp hk
      rw [hS'] at h
      cases h
      exact ⟨rfl, by rw [hps], fun _ => hret, fun h => absurd hk h⟩
    · obtain ⟨herr, hok⟩ := build_of_returns hb hp hk
      cases hr : b.resolver.resolveReturn c.returnValue with
      | error e =>
        rw [herr e hr] at h
        cases h
      | ok rt =>
        obtain ⟨S', hS', hps, hret⟩ := hok rt hr
        rw [hS'] at h
        cases h
        exact ⟨rfl, by rw [hps], fun h => absurd h hk, fun _ => by rw [hret]⟩

/-- Only the overrides refuse to bind: the other failures are of types. -/
theorem build_eq_notBound_iff : b.build c = .error .notBound ↔ b.overrides.bind c.identifier = false := by
  refine ⟨fun h => ?_, build_of_not_bound⟩
  cases hb : b.overrides.bind c.identifier
  · rfl
  exfalso
  cases hp : b.params c.identifier c.parameters with
  | error e =>
    rw [build_of_params_error hb hp, Except.error.injEq] at h
    obtain ⟨p, -, hpe⟩ := params_error b c.identifier (h ▸ hp)
    obtain ⟨-, hskip⟩ := Resolver.resolveFor_eq_error_iff.1 hpe
    split at hskip <;> cases hskip
  | ok ps =>
    by_cases hk : c.kind = .constructor
    · obtain ⟨S, hS, -⟩ := build_constructor hb hp hk
      rw [hS] at h
      cases h
    · obtain ⟨herr, hok⟩ := build_of_returns hb hp hk
      cases hr : b.resolver.resolveReturn c.returnValue with
      | error e =>
        rw [herr e hr, Except.error.injEq] at h
        rcases Resolver.resolveReturn_error (h ▸ hr) with h' | h' | h' <;> cases h'
      | ok rt =>
        obtain ⟨S, hS, -⟩ := hok rt hr
        rw [hS] at h
        cases h

/-- A constructor's return value is never looked at. -/
theorem build_constructor_returnValue (hk : c.kind = .constructor) (rv : Option Shape) :
    b.build { c with returnValue := rv } = b.build c := by
  obtain ⟨kind, name, cid, params, rv', doc, dep⟩ := c
  subst hk
  rfl

end SignatureBuilder

open SignatureBuilder Resolver in
/-- Building a callable fails on the overrides' refusal, then on its first unbindable parameter, then
on an unbindable return value; otherwise it has one parameter per document parameter, in order. -/
theorem build_outcome (b : SignatureBuilder) (c : Callable) :
    (b.build c = .error .notBound ↔ b.overrides.bind c.identifier = false) ∧
    (b.overrides.bind c.identifier = true → ∀ pre p post e, c.parameters = pre ++ p :: post →
      (∀ q ∈ pre, ∃ d, b.resolver.resolveFor q.name q.shape = .ok d) →
      b.resolver.resolveFor p.name p.shape = .error e →
      b.build c = .error e ∧ e = if p.shape = .varargs then .varargs else .unknownType p.name) ∧
    (b.overrides.bind c.identifier = true →
      (∀ q ∈ c.parameters, ∃ d, b.resolver.resolveFor q.name q.shape = .ok d) →
      c.kind ≠ .constructor → ∀ e, b.resolver.resolveReturn c.returnValue = .error e →
      b.build c = .error e ∧ (e = .varargs ∨ e = .unknownType "return" ∨ e = .arrayReturn)) ∧
    (c.kind = .constructor → ∀ rv, b.build { c with returnValue := rv } = b.build c) ∧
    (b.overrides.bind c.identifier = true →
      (∀ q ∈ c.parameters, ∃ d, b.resolver.resolveFor q.name q.shape = .ok d) →
      (c.kind = .constructor ∨ ∃ rt, b.resolver.resolveReturn c.returnValue = .ok rt) →
      ∃ S, b.build c = .ok S) ∧
    ∀ S, b.build c = .ok S →
      List.Forall₂ (fun p q => q.nativeName = p.name ∧ q.name = b.naming.parameter p.name ∧
          q.ty = b.resolver.classify p.shape ∧ q.ty.bindable = true ∧
          (q.mode = .outMode ↔ q.ty.pointerLike = true) ∧
          q.default = b.overrides.defaultFor c.identifier p.name)
        c.parameters S.parameters ∧
      (c.kind = .constructor → S.returns = .void) ∧
      (c.kind ≠ .constructor → b.resolver.resolveReturn c.returnValue = .ok S.returns) := by
  refine ⟨build_eq_notBound_iff, ?_, ?_, build_constructor_returnValue, ?_, ?_⟩
  · intro hb pre p post e hps hpre hp
    have hparams : b.params c.identifier c.parameters = .error e := by
      rw [hps]
      exact params_of_first_failure b _ post hpre hp
    exact ⟨build_of_params_error hb hparams, (resolveFor_eq_error_iff.1 hp).2⟩
  · intro hb hall hk e hr
    exact ⟨(build_of_returns hb (params_of_resolved b _ hall) hk).1 e hr, resolveReturn_error hr⟩
  · intro hb hall hret
    have hparams := params_of_resolved b c.identifier hall
    by_cases hk : c.kind = .constructor
    · obtain ⟨S, hS, -⟩ := build_constructor hb hparams hk
      exact ⟨S, hS⟩
    · obtain ⟨rt, hrt⟩ := hret.resolve_left hk
      obtain ⟨S, hS, -⟩ := (build_of_returns hb hparams hk).2 rt hrt
      exact ⟨S, hS⟩
  · intro S hS
    obtain ⟨-, hparams, hvoid, hreturns⟩ := build_eq_ok hS
    obtain ⟨hall, hmap⟩ := params_eq_ok hparams
    refine ⟨?_, hvoid, hreturns⟩
    rw [hmap, List.forall₂_map_right_iff, List.forall₂_same]
    exact fun p hp => paramOf_spec (hall p hp)

/-- A method with a variable argument list after a string is skipped for its varargs. -/
theorem varargs_method_is_skipped :
    let b : SignatureBuilder := ⟨⟨⟨"Gtk", Index.empty, []⟩, Naming.new "Gtk", TypeTable.empty⟩,
      Registry.empty⟩
    let format : Parameter := ⟨"format", .direct ⟨some "utf8", some "const gchar*"⟩, none⟩
    let args : Parameter := ⟨"args", .varargs, none⟩
    let c : Callable := ⟨.method, "printf", some "gtk_printf", [format, args], none, none, none⟩
    b.overrides.bind c.identifier = true ∧ c.parameters = [format] ++ args :: [] ∧
      (∀ q ∈ [format], ∃ d, b.resolver.resolveFor q.name q.shape = .ok d) ∧
      b.resolver.resolveFor args.name args.shape = .error .varargs ∧
      b.build c = .error .varargs ∧
        Skip.varargs = if args.shape = .varargs then .varargs else .unknownType args.name := by
  intro b format args c
  have hb : b.overrides.bind c.identifier = true := rfl
  have hformat : ∀ q ∈ [format], ∃ d, b.resolver.resolveFor q.name q.shape = .ok d := by
    simp only [List.mem_singleton, forall_eq]
    exact ⟨_, rfl⟩
  have hargs : b.resolver.resolveFor args.name args.shape = .error .varargs := rfl
  exact ⟨hb, rfl, hformat, hargs, (build_outcome b c).2.1 hb [format] args [] _ rfl hformat hargs⟩

end GirAda.Ada
