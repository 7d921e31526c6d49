import GirAda.Generator.Run
import GirAda.Proofs.Sections

/-!
# What a class contributes

Generating a class edits its package and reports what it leaves out, one member at a time:
each constructor, method, property and signal either binds, and adds its declarations to the
package, or is left out with exactly one diagnostic. This module states a class's contribution
in that form: `classEdits` lists the package edits it makes, built from the members that bind,
and `classDiagnostics` the diagnostics, built from those that do not. `classDraft_eq` says that
is what generating the class does, whatever the package was before: the edits do not depend on
the package, and the diagnostics do not depend on it either.
-/

namespace GirAda

open GirAda.Gir GirAda.Ada GirAda.Override GirAda.Doc

/-! ## Outcomes -/

section Outcomes

variable {ε α : Type}

/-- The values of the outcomes that succeeded, in order. -/
def successes (os : List (Except ε α)) : List α := os.filterMap Except.toOption

/-- The error of an outcome that failed. -/
def failure? : Except ε α → Option ε
  | .error e => some e
  | .ok _ => none

/-- The errors of the outcomes that failed, in order. -/
def failures (os : List (Except ε α)) : List ε := os.filterMap failure?

theorem failure?_eq_some {o : Except ε α} {e : ε} : failure? o = some e ↔ o = .error e := by
  cases o <;> simp [failure?]

@[simp] theorem successes_nil : successes ([] : List (Except ε α)) = [] := rfl

@[simp] theorem successes_cons_ok (a : α) (os : List (Except ε α)) :
    successes (.ok a :: os) = a :: successes os := rfl

@[simp] theorem successes_cons_error (e : ε) (os : List (Except ε α)) :
    successes (.error e :: os) = successes os := rfl

@[simp] theorem successes_append (os os' : List (Except ε α)) :
    successes (os ++ os') = successes os ++ successes os' := List.filterMap_append

@[simp] theorem failures_nil : failures ([] : List (Except ε α)) = [] := rfl

@[simp] theorem failures_cons_ok (a : α) (os : List (Except ε α)) :
    failures (.ok a :: os) = failures os := rfl

@[simp] theorem failures_cons_error (e : ε) (os : List (Except ε α)) :
    failures (.error e :: os) = e :: failures os := rfl

@[simp] theorem failures_append (os os' : List (Except ε α)) :
    failures (os ++ os') = failures os ++ failures os' := List.filterMap_append

end Outcomes

namespace Draft

/-- Record the outcome of one member: a failure is reported, a success makes its edits. -/
def record {γ : Type} (edits : γ → List Package.Edit) (d : Draft) : Except Diagnostic γ → Draft
  | .error e => ⟨d.package, d.diagnostics ++ [e]⟩
  | .ok v => ⟨d.package.applyEdits (edits v), d.diagnostics⟩

/-- A run of draft steps that each record one outcome: the package takes the edits of the
successes, the diagnostics grow by the failures. -/
theorem foldl_eq {β γ : Type} {step : Draft → β → Draft} {out : β → Except Diagnostic γ}
    {edits : γ → List Package.Edit} (h : ∀ d x, step d x = d.record edits (out x))
    (xs : List β) (d : Draft) :
    xs.foldl step d =
      ⟨d.package.applyEdits ((successes (xs.map out)).flatMap edits),
        d.diagnostics ++ failures (xs.map out)⟩ := by
  induction xs generalizing d with
  | nil => simp
  | cons x xs ih =>
    rw [List.foldl_cons, h]
    cases hx : out x <;> simp [record, ih, hx]

end Draft

/-! ## Package operations as edits -/

namespace Ada

theorem Package.applyEdits_map {β : Type} (p : Package) (f : β → Package.Edit) (xs : List β) :
    p.applyEdits (xs.map f) = xs.foldl (fun p x => (f x).apply p) p := by
  simp [Package.applyEdits, List.foldl_map]

theorem Package.applyEdits_flatMap {β : Type} (p : Package) (f : β → List Package.Edit)
    (xs : List β) : p.applyEdits (xs.flatMap f) = xs.foldl (fun p x => p.applyEdits (f x)) p := by
  induction xs generalizing p with
  | nil => rfl
  | cons x xs ih => simp [ih]

end Ada

namespace Generator

variable (g : Generator)

/-- The `with` clauses a signature needs, as edits. -/
def withEdits (s : Signature) : List Package.Edit := s.packages.map .addWith

/-- The bodies of those subprograms that have one. -/
def bodyTexts (subs : List Subprogram) : List String :=
  subs.filterMap fun s => body g.naming s indentStep

/-- The bodies of those subprograms that have one, as edits. -/
def bodyEdits (subs : List Subprogram) : List Package.Edit := (g.bodyTexts subs).map .addBody

theorem addWiths_eq (p : Package) (s : Signature) : addWiths p s = p.applyEdits (withEdits s) := by
  simp [addWiths, withEdits, Package.applyEdits_map, Package.Edit.apply]

theorem addBodies_eq (p : Package) (subs : List Subprogram) :
    addBodies g.naming p subs = p.applyEdits (g.bodyEdits subs) := by
  simp [addBodies, bodyEdits, bodyTexts, Package.applyEdits_map, Package.Edit.apply]

/-! ## Members -/

/-- A constructor or a method: its signature, or the diagnostic naming its native identifier. -/
def callableOutcome (x : Callable) : Except Diagnostic Signature :=
  (g.builder.build x).mapError (Diagnostic.mk x.identifier)

/-- A signal: its signature, or the diagnostic naming it `Type::signal`. -/
def signalOutcome (names : ClassNames) (x : Callable) : Except Diagnostic Signature :=
  (g.builder.build x).mapError (Diagnostic.mk (names.typeName ++ "::" ++ x.name))

/-- A property: its binding, or the diagnostic naming it `Type:property`. -/
def propertyOutcome (names : ClassNames) (x : Property) : Except Diagnostic PropertyBinding :=
  (g.propertyTypes.bindProperty g.resolver x).mapError
    (Diagnostic.mk (names.typeName ++ ":" ++ x.name))

/-- What a bound constructor adds: the `with` clauses, one declaration block and the bodies. -/
def constructorEdits (names : ClassNames) (s : Signature) : List Package.Edit :=
  let subs := g.builder.constructor names s
  withEdits s ++ [.addWith "Glib.Object", .addWith "System",
    .addTo "Constructors" (declaration g.naming subs indentStep)] ++ g.bodyEdits subs

/-- What a bound method adds: the `with` clauses, one declaration block and the body. -/
def methodEdits (names : ClassNames) (s : Signature) : List Package.Edit :=
  let sub := g.builder.method names s
  withEdits s ++ [.addWith "Glib.Object", .addWith "System",
    .addTo "Methods" (declaration g.naming [sub] indentStep)] ++ g.bodyEdits [sub]

/-- The declaration of the type function, when the class has one and it is bound. -/
def getTypeBlock? (c : GirClass) : Option String :=
  match g.builder.getType c with
  | .ok (some t) => some (declaration g.naming [t] indentStep)
  | _ => none

/-- What the type function adds: its declaration, after the constructors. -/
def getTypeEdits (c : GirClass) : List Package.Edit :=
  match g.getTypeBlock? c with
  | some b => [.addWith "Glib", .addTo "Constructors" b]
  | none => []

/-- The diagnostic of the type function, when the overrides do not bind it. -/
def getTypeDiagnostics (c : GirClass) : List Diagnostic :=
  match g.builder.getType c, c.getType with
  | .error k, some id => [⟨id, k⟩]
  | _, _ => []

theorem addConstructor_eq (names : ClassNames) (d : Draft) (x : Callable) :
    g.addConstructor names d x = d.record (g.constructorEdits names) (g.callableOutcome x) := by
  unfold addConstructor callableOutcome
  cases g.builder.build x with
  | error k => rfl
  | ok s =>
    simp [Except.mapError, Draft.record, Draft.edit, constructorEdits, addWiths_eq, addBodies_eq,
      Package.Edit.apply]

theorem addMethod_eq (names : ClassNames) (d : Draft) (x : Callable) :
    g.addMethod names d x = d.record (g.methodEdits names) (g.callableOutcome x) := by
  unfold addMethod callableOutcome
  cases g.builder.build x with
  | error k => rfl
  | ok s =>
    simp [Except.mapError, Draft.record, Draft.edit, methodEdits, addWiths_eq, addBodies_eq,
      Package.Edit.apply]

/-- The constructors reported or added one by one, then the type function. -/
theorem constructors_eq (c : GirClass) (names : ClassNames) (d : Draft) :
    g.constructors c names d =
      ⟨d.package.applyEdits ((successes (c.constructors.map g.callableOutcome)).flatMap
          (g.constructorEdits names) ++ g.getTypeEdits c),
        d.diagnostics ++ failures (c.constructors.map g.callableOutcome) ++
          g.getTypeDiagnostics c⟩ := by
  unfold constructors
  rw [Draft.foldl_eq (g.addConstructor_eq names)]
  cases h : g.builder.getType c with
  | ok t =>
    cases t <;> simp [getTypeEdits, getTypeBlock?, getTypeDiagnostics, h, Draft.edit,
      Package.Edit.apply]
  | error k =>
    cases hc : c.getType <;> simp [getTypeEdits, getTypeBlock?, getTypeDiagnostics, h, hc, Draft.skip]

theorem methods_eq (c : GirClass) (names : ClassNames) (d : Draft) :
    g.methods c names d =
      ⟨d.package.applyEdits ((successes (c.methods.map g.callableOutcome)).flatMap
          (g.methodEdits names)),
        d.diagnostics ++ failures (c.methods.map g.callableOutcome)⟩ :=
  Draft.foldl_eq (g.addMethod_eq names) c.methods d

/-! ## Properties -/

/-- The properties that bind, sorted by native name (equal names in document order). -/
def boundProperties (c : GirClass) (names : ClassNames) : List PropertyBinding :=
  (successes (c.properties.map (g.propertyOutcome names))).mergeSort
    fun a b => decide (a.nativeName ≤ b.nativeName)

/-- What the bound properties add: the `with` clauses of their packages, the listing and the
constants, and the constants' definitions in the private part; nothing when none binds. -/
def propertyEdits (bound : List PropertyBinding) : List Package.Edit :=
  if bound.isEmpty then []
  else
    bound.map (fun b => .addWith b.package) ++
      [.addTo "Properties" (g.propertyListing bound),
        .addTo "Properties" (String.join (bound.map propertyConstant)),
        .addPrivate (String.join (bound.map propertyDefinition))]

theorem bindClass_fst (c : GirClass) (names : ClassNames) :
    (g.propertyTypes.bindClass g.resolver c).1 = g.boundProperties c names := by
  simp only [PropertyTypes.bindClass, boundProperties]
  congr 1
  induction c.properties with
  | nil => rfl
  | cons x xs ih =>
    cases h : g.propertyTypes.bindProperty g.resolver x <;>
      simp [h, ih, propertyOutcome, Except.mapError]

/-- Reporting the properties that do not bind, each under `Type:property`. -/
theorem foldl_skip_bindClass (c : GirClass) (names : ClassNames) (d : Draft) :
    (g.propertyTypes.bindClass g.resolver c).2.foldl
        (fun d s => d.skip (names.typeName ++ ":" ++ s.1) s.2) d =
      ⟨d.package, d.diagnostics ++ failures (c.properties.map (g.propertyOutcome names))⟩ := by
  simp only [PropertyTypes.bindClass]
  induction c.properties generalizing d with
  | nil => simp
  | cons x xs ih =>
    cases h : g.propertyTypes.bindProperty g.resolver x with
    | error k =>
      simp only [List.map_cons, h, List.filterMap_cons, List.foldl_cons]
      rw [ih]
      simp [Draft.skip, propertyOutcome, Except.mapError, h]
    | ok b =>
      simp only [List.map_cons, h, List.filterMap_cons]
      rw [ih]
      simp [propertyOutcome, Except.mapError, h]

theorem properties_eq (c : GirClass) (names : ClassNames) (d : Draft) :
    g.properties c names d =
      ⟨d.package.applyEdits (g.propertyEdits (g.boundProperties c names)),
        d.diagnostics ++ failures (c.properties.map (g.propertyOutcome names))⟩ := by
  simp only [properties]
  rw [bindClass_fst g c names, foldl_skip_bindClass]
  unfold propertyEdits
  split
  · simp
  · simp [Draft.edit, Package.applyEdits_map, Package.Edit.apply]

/-! ## Signals -/

/-- The signals in the order they are generated: by name, equal names in document order. -/
def sortedSignals (c : GirClass) : List Callable :=
  c.signals.mergeSort fun a b => decide (a.name ≤ b.name)

/-- The signals that bind, in the order they are generated. -/
def boundSignals (c : GirClass) (names : ClassNames) : List Signature :=
  successes ((sortedSignals c).map (g.signalOutcome names))

/-- The comment that opens the signals of a class. -/
def signalsHeading : String :=
  indentStep ++ "--  The following new signals are defined for this widget:\n"

/-- What the bound signals add: the heading comment, then each signal's declarations after the
`with` clauses it needs; nothing when none binds. -/
def signalEdits (names : ClassNames) (bound : List Signature) : List Package.Edit :=
  if bound.isEmpty then []
  else
    [.addWith "Glib", .addTo "Signals" signalsHeading] ++
      bound.flatMap fun s => withEdits s ++ [.addTo "Signals" (g.signalText names s)]

theorem foldl_addSignal (names : ClassNames) (xs : List Callable) (d : Draft)
    (bound : List Signature) :
    xs.foldl (g.addSignal names) (d, bound) =
      (⟨d.package, d.diagnostics ++ failures (xs.map (g.signalOutcome names))⟩,
        bound ++ successes (xs.map (g.signalOutcome names))) := by
  induction xs generalizing d bound with
  | nil => simp
  | cons x xs ih =>
    rw [List.foldl_cons]
    cases h : g.builder.build x <;>
      simp [addSignal, signalOutcome, Except.mapError, Draft.skip, h, ih]

theorem signals_eq (c : GirClass) (names : ClassNames) (d : Draft) :
    g.signals c names d =
      ⟨d.package.applyEdits (g.signalEdits names (g.boundSignals c names)),
        d.diagnostics ++ failures ((sortedSignals c).map (g.signalOutcome names))⟩ := by
  simp only [signals]
  rw [← sortedSignals, foldl_addSignal]
  unfold signalEdits boundSignals
  split
  · simp_all
  · simp_all [Draft.edit, Package.applyEdits_flatMap, Package.Edit.apply, addWiths_eq,
      signalsHeading]

/-! ## Documentation and type -/

/-- The documentation a class gives its package: the overrides', or else its own when its package
is its own. -/
def docEdits (c : GirClass) (names : ClassNames) (target : String) : List Package.Edit :=
  match g.overrides.packageDoc names.package, c.doc with
  | some doc, _ => [.setDoc doc]
  | none, some doc => if target == names.package then [.setDoc (cleanDoc g.naming doc)] else []
  | none, none => []

/-- The type declaration: a `with` clause for the parent's package, then the types. -/
def typeEdits (c : GirClass) (names : ClassNames) : List Package.Edit :=
  [.addWith (g.parentOf c).1, .addTo "" (g.typeText names (g.parentOf c).2)]

theorem documentation_eq (c : GirClass) (names : ClassNames) (target : String) (p : Package) :
    g.documentation c names target p = p.applyEdits (g.docEdits c names target) := by
  unfold documentation docEdits
  cases g.overrides.packageDoc names.package with
  | some doc => rfl
  | none =>
    cases c.doc with
    | none => rfl
    | some doc => by_cases h : (target == names.package) = true <;> simp [h, Package.Edit.apply]

theorem typeDeclaration_eq (c : GirClass) (names : ClassNames) (p : Package) :
    g.typeDeclaration c names p = p.applyEdits (g.typeEdits c names) := rfl

/-! ## A whole class -/

/-- Every edit a class makes to its package, in order. -/
def classEdits (c : GirClass) (names : ClassNames) (target : String) : List Package.Edit :=
  g.docEdits c names target ++ g.typeEdits c names ++
    (successes (c.constructors.map g.callableOutcome)).flatMap (g.constructorEdits names) ++
    g.getTypeEdits c ++
    (successes (c.methods.map g.callableOutcome)).flatMap (g.methodEdits names) ++
    g.propertyEdits (g.boundProperties c names) ++
    g.signalEdits names (g.boundSignals c names)

/-- Every diagnostic of a class, in order: constructors, type function, methods, properties,
signals. -/
def classDiagnostics (c : GirClass) (names : ClassNames) : List Diagnostic :=
  failures (c.constructors.map g.callableOutcome) ++ g.getTypeDiagnostics c ++
    failures (c.methods.map g.callableOutcome) ++
    failures (c.properties.map (g.propertyOutcome names)) ++
    failures ((sortedSignals c).map (g.signalOutcome names))

/-- A class makes the same edits and reports the same diagnostics whatever its package held. -/
theorem classDraft_eq (c : GirClass) (names : ClassNames) (target : String) (p : Package) :
    g.classDraft c names target p =
      ⟨p.applyEdits (g.classEdits c names target), g.classDiagnostics c names⟩ := by
  simp only [classDraft, constructors_eq, methods_eq, properties_eq, signals_eq,
    documentation_eq, typeDeclaration_eq, classEdits, classDiagnostics,
    Package.applyEdits_append, List.nil_append, List.append_assoc]

end Generator

end GirAda
