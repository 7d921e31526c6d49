import GirAda.Ada.Lowering
import GirAda.Proofs.Resolution

/-!
# Wrappers around the imported call

A method becomes a wrapper that runs the lowered call once and then its cleanups. What comes
around them depends on the return type: a procedure states the call and cleans up; a function
without cleanups returns the call converted back from C; a function with cleanups keeps the
call's result in `Tmp_Return`, of the foreign type, cleans up, and returns `Tmp_Return`
converted back. The conversion back may need a local of its own (the stub of an object), which
is declared. A built signature returns nothing or a type that can be bound, so one of the three
applies, and a function's result type is its type's public result type.

A constructor becomes an allocator and an initializer: the initializer hands the object made by
the C constructor to `Set_Object` and cleans up; the allocator makes the record and calls the
initializer with its own parameters, which are the initializer's, in order.

Main statement: `wrappers_run_the_call`.
-/

namespace GirAda.Ada

open GirAda.Gir GirAda.Override GirAda.Text

@[simp] theorem SignatureParam.name_publicParam (p : SignatureParam) : p.publicParam.name = p.name :=
  rfl

/-- The cleanups of a call are the parameters' own, in order. -/
theorem lowerCall_cleanups (S : Signature) (r : Option String) :
    (lowerCall S r).cleanups = S.parameters.flatMap fun p => (paramParts p).cleanups := by
  simp [lowerCall, List.flatMap_map]

/-- The C constructor is a function giving the address of the new object. -/
theorem lowerCall_internal_returns_of_constructor {S : Signature} (hk : S.kind = .constructor)
    (r : Option String) : (lowerCall S r).internal.returns = some "System.Address" := by
  simp [lowerCall, hk]

namespace SignatureBuilder

variable {b : SignatureBuilder} {c : Callable} {S : Signature}

/-- A built signature has the kind of its callable, and returns nothing or a value whose type
can be bound and is no array. -/
theorem build_kind_returns (h : b.build c = .ok S) :
    S.kind = c.kind ∧ (∀ d, S.returns = .value d → d.bindable = true ∧ ∀ ty e, d ≠ .array ty e) := by
  obtain ⟨hb, hp, hvoid, hret⟩ := build_eq_ok h
  have hkind : S.kind = c.kind := by
    by_cases hk : c.kind = .constructor
    · simp only [build, hb, hp, hk, Bool.not_true, bind, Except.bind, pure, Except.pure] at h
      rw [← Except.ok.inj h]
      exact hk.symm
    · simp only [build, hb, hp, Bool.not_true, bind, Except.bind, pure, Except.pure] at h
      cases hkind : c.kind with
      | constructor => exact absurd hkind hk
      | method | signal =>
        simp only [hkind, hret (by simp [hkind])] at h
        rw [← Except.ok.inj h]
  refine ⟨hkind, fun d hd => ?_⟩
  by_cases hk : c.kind = .constructor
  · rw [hvoid hk] at hd
    cases hd
  · exact Resolver.resolveReturn_eq_value (hd ▸ hret hk)

variable (b) (cls : ClassNames)

/-- A method that returns nothing is a procedure: the call, then the cleanups. -/
theorem method_of_void (hv : S.returns = .void) :
    let call := lowerCall S (some "Get_Object (Self)")
    (b.method cls S).returns = none ∧
      (b.method cls S).body = .code [call.internal] call.locals ((call.expression ++ ";") :: call.cleanups) := by
  simp [method, Signature.returnedType, hv]

/-- A method that returns a value of a type is a function of the type's public result type. It
returns the call converted back when there is nothing to clean up; otherwise the call's result
goes to `Tmp_Return`, of the foreign type, and is converted back after the cleanups. The local
the conversion back relies on is declared. -/
theorem method_of_value {d : Descriptor} {t : AdaType} (hd : S.returns = .value d)
    (ht : d.adaType? = some t) :
    let call := lowerCall S (some "Get_Object (Self)")
    let fromC := t.mapping.fromC
    (b.method cls S).returns = some t.mapping.result ∧
      (b.method cls S).body = if call.cleanups = [] then
          .code [call.internal] (call.locals ++ fromC.localDecl.toList)
            ["return " ++ fromC.apply call.expression ++ ";"]
        else
          .code [call.internal] (call.locals ++ fromC.localDecl.toList ++ ["Tmp_Return : " ++ t.mapping.foreign ++ ";"])
            (("Tmp_Return := " ++ call.expression ++ ";") :: call.cleanups ++
              ["return " ++ fromC.apply "Tmp_Return" ++ ";"]) := by
  intro call fromC
  have hret : S.returnedType = some t := by simp [Signature.returnedType, hd, ht]
  by_cases hc : call.cleanups = []
  · simp [method, hret, hd, ht, call, hc, fromC]
  · simp [method, hret, hd, ht, call, hc, fromC, List.isEmpty_iff]

/-- A constructor's pair: the allocator, named as the signature, makes the record and calls the
initializer with its own parameters, which are the initializer's; the initializer hands the
object the call makes to `Set_Object`, then cleans up. Both are procedures. -/
theorem constructor_pair (S : Signature) :
    let call := lowerCall S none
    ∃ allocator initializer, b.constructor cls S = [allocator, initializer] ∧
      allocator.name = S.adaName ∧ allocator.returns = none ∧ initializer.returns = none ∧
      initializer.parameters.map (·.name) = "Self" :: S.parameters.map (·.name) ∧
      allocator.parameters.map (·.name) = initializer.parameters.map (·.name) ∧
      initializer.body = .code [call.internal] call.locals
        (("Set_Object (Self, " ++ call.expression ++ ");") :: call.cleanups) ∧
      allocator.body = .code [] [] ["Self := new " ++ cls.record ++ ";",
        initializer.name ++ " (" ++ ", ".intercalate (initializer.parameters.map (·.name)) ++ ");"] := by
  intro call
  refine ⟨_, _, rfl, rfl, rfl, rfl, ?_, ?_, rfl, ?_⟩ <;> simp [List.map_map, Function.comp_def]

end SignatureBuilder

open SignatureBuilder in
/-- The method wrapper and the constructor pair of a built signature make the call, then the
parameters' cleanups; a method returns its value through `Tmp_Return` exactly when there are
cleanups. -/
theorem wrappers_run_the_call {b : SignatureBuilder} {c : Callable} {S : Signature}
    (hS : b.build c = .ok S) (cls : ClassNames) :
    (let call := lowerCall S (some "Get_Object (Self)")
     let m := b.method cls S
     call.cleanups = S.parameters.flatMap (fun p => (paramParts p).cleanups) ∧
     (S.returns = .void → m.returns = none ∧
       m.body = .code [call.internal] call.locals ((call.expression ++ ";") :: call.cleanups)) ∧
     ∀ d, S.returns = .value d → ∃ t, d.adaType? = some t ∧ m.returns = some t.mapping.result ∧
       (call.cleanups = [] → m.body = .code [call.internal]
         (call.locals ++ t.mapping.fromC.localDecl.toList)
         ["return " ++ t.mapping.fromC.apply call.expression ++ ";"]) ∧
       (call.cleanups ≠ [] → m.body = .code [call.internal]
         (call.locals ++ t.mapping.fromC.localDecl.toList ++ ["Tmp_Return : " ++ t.mapping.foreign ++ ";"])
         (("Tmp_Return := " ++ call.expression ++ ";") :: call.cleanups ++
           ["return " ++ t.mapping.fromC.apply "Tmp_Return" ++ ";"]))) ∧
    (c.kind = .constructor →
      let call := lowerCall S none
      call.internal.returns = some "System.Address" ∧
      call.cleanups = S.parameters.flatMap (fun p => (paramParts p).cleanups) ∧
      ∃ allocator initializer, b.constructor cls S = [allocator, initializer] ∧
        allocator.name = S.adaName ∧ allocator.returns = none ∧ initializer.returns = none ∧
        initializer.parameters.map (·.name) = "Self" :: S.parameters.map (·.name) ∧
        allocator.parameters.map (·.name) = initializer.parameters.map (·.name) ∧
        initializer.body = .code [call.internal] call.locals
          (("Set_Object (Self, " ++ call.expression ++ ");") :: call.cleanups) ∧
        allocator.body = .code [] [] ["Self := new " ++ cls.record ++ ";",
          initializer.name ++ " (" ++ ", ".intercalate (initializer.parameters.map (·.name)) ++ ");"]) := by
  obtain ⟨hkind, hvalue⟩ := build_kind_returns hS
  refine ⟨⟨lowerCall_cleanups S _, method_of_void b cls, fun d hd => ?_⟩, fun hk => ?_⟩
  · obtain ⟨t, ht⟩ := Option.isSome_iff_exists.1 (hvalue d hd).1
    obtain ⟨hret, hbody⟩ := method_of_value b cls hd ht
    refine ⟨t, ht, hret, fun hc => ?_, fun hc => ?_⟩
    · rw [hbody, if_pos hc]
    · rw [hbody, if_neg hc]
  · exact ⟨lowerCall_internal_returns_of_constructor (hkind.trans hk) none, lowerCall_cleanups S none,
      constructor_pair b cls S⟩

/-- An entry's `set_text`, which takes a string and returns a Boolean: the string goes through a
temporary freed after the call, so the result waits in `Tmp_Return`. -/
theorem set_text_wrapper_runs_the_call :
    let b : SignatureBuilder := ⟨⟨⟨"Gtk", Index.empty, []⟩, Naming.new "Gtk", TypeTable.default⟩,
      Registry.empty⟩
    let text : Parameter := ⟨"text", .direct ⟨some "utf8", some "const gchar*"⟩, none⟩
    let c : Callable := ⟨.method, "set_text", some "gtk_entry_set_text", [text],
      some (.direct ⟨some "gboolean", some "gboolean"⟩), none, none⟩
    let cls := ClassNames.of (Naming.new "Gtk") "Entry"
    ∃ S, b.build c = .ok S ∧
      (let call := lowerCall S (some "Get_Object (Self)")
       let m := b.method cls S
       call.cleanups = S.parameters.flatMap (fun p => (paramParts p).cleanups) ∧
       (S.returns = .void → m.returns = none ∧
         m.body = .code [call.internal] call.locals ((call.expression ++ ";") :: call.cleanups)) ∧
       ∀ d, S.returns = .value d → ∃ t, d.adaType? = some t ∧ m.returns = some t.mapping.result ∧
         (call.cleanups = [] → m.body = .code [call.internal]
           (call.locals ++ t.mapping.fromC.localDecl.toList)
           ["return " ++ t.mapping.fromC.apply call.expression ++ ";"]) ∧
         (call.cleanups ≠ [] → m.body = .code [call.internal]
           (call.locals ++ t.mapping.fromC.localDecl.toList ++ ["Tmp_Return : " ++ t.mapping.foreign ++ ";"])
           (("Tmp_Return := " ++ call.expression ++ ";") :: call.cleanups ++
             ["return " ++ t.mapping.fromC.apply "Tmp_Return" ++ ";"]))) ∧
      (c.kind = .constructor →
        let call := lowerCall S none
        call.internal.returns = some "System.Address" ∧
        call.cleanups = S.parameters.flatMap (fun p => (paramParts p).cleanups) ∧
        ∃ allocator initializer, b.constructor cls S = [allocator, initializer] ∧
          allocator.name = S.adaName ∧ allocator.returns = none ∧ initializer.returns = none ∧
          initializer.parameters.map (·.name) = "Self" :: S.parameters.map (·.name) ∧
          allocator.parameters.map (·.name) = initializer.parameters.map (·.name) ∧
          initializer.body = .code [call.internal] call.locals
            (("Set_Object (Self, " ++ call.expression ++ ");") :: call.cleanups) ∧
          allocator.body = .code [] [] ["Self := new " ++ cls.record ++ ";",
            initializer.name ++ " (" ++ ", ".intercalate (initializer.parameters.map (·.name)) ++ ");"]) := by
  intro b text c cls
  obtain ⟨S, hS⟩ : ∃ S, b.build c = .ok S := ⟨_, rfl⟩
  exact ⟨S, hS, wrappers_run_the_call hS cls⟩

end GirAda.Ada
