import GirAda.Proofs.Contribution
import GirAda.Proofs.PackageSets

/-!
# Accounting for every member

A run generates every class that is not a hook class, in document order, each into its own
package or the one the overrides merge it into. Every member of a class is accounted for once:
a constructor or a method adds one declaration block and its bodies, or is reported once; the
type function adds one block after the constructors, or is reported, or is absent; the bound
properties share one listing, one block of constants and one private block of definitions, the
others are reported once each; the bound signals follow one heading, one block each, and the
others are reported once each.

`generate_accounts_for_every_member` states this for whole runs: a package holds, section by
section, the blocks of the classes that went into it, in class order, and the diagnostics are
those of the classes in document order.
-/

namespace GirAda

open GirAda.Gir GirAda.Ada GirAda.Override

/-! ## What edits leave in the private part and the body -/

namespace Ada

namespace Package.Edit

/-- The block an edit adds to the private part, if any. -/
def privateBlock? : Edit → Option String
  | addPrivate t => some t
  | setDoc _ | addWith _ | openSection _ | addTo _ _ | addBody _ => none

/-- The block an edit adds to the body, if any. -/
def bodyBlock? : Edit → Option String
  | addBody t => some t
  | setDoc _ | addWith _ | openSection _ | addTo _ _ | addPrivate _ => none

end Package.Edit

/-- The blocks a history of edits added to the private part, in order. -/
@[simp] def addedPrivates (es : List Package.Edit) : List String :=
  Package.Edit.trace Package.Edit.privateBlock? es

/-- The blocks a history of edits added to the body, in order. -/
@[simp] def addedBodies (es : List Package.Edit) : List String :=
  Package.Edit.trace Package.Edit.bodyBlock? es

namespace Package

variable (p : Package)

/-- `with` clauses and sections leave the private part and the body alone. -/
theorem decls_addWith (o : String) :
    (p.addWith o).privateDecls = p.privateDecls ∧ (p.addWith o).bodyDecls = p.bodyDecls := by
  unfold addWith
  split <;> exact ⟨rfl, rfl⟩

theorem decls_openSection (n : String) :
    (p.openSection n).privateDecls = p.privateDecls ∧
      (p.openSection n).bodyDecls = p.bodyDecls := by
  unfold openSection
  split <;> exact ⟨rfl, rfl⟩

theorem privateDecls_applyEdits (es : List Edit) :
    (p.applyEdits es).privateDecls = p.privateDecls ++ addedPrivates es := by
  induction es generalizing p with
  | nil => simp
  | cons e es ih =>
    rw [applyEdits_cons, ih]
    cases e <;>
      simp [Edit.apply, Edit.privateBlock?, setDoc, addPrivate, addBody, addTo,
        (decls_addWith _ _).1, (decls_openSection _ _).1]

theorem bodyDecls_applyEdits (es : List Edit) :
    (p.applyEdits es).bodyDecls = p.bodyDecls ++ addedBodies es := by
  induction es generalizing p with
  | nil => simp
  | cons e es ih =>
    rw [applyEdits_cons, ih]
    cases e <;>
      simp [Edit.apply, Edit.bodyBlock?, setDoc, addPrivate, addBody, addTo,
        (decls_addWith _ _).2, (decls_openSection _ _).2]

end Package

end Ada

/-! ## A run, class by class -/

/-- The classes a run generates when it is not told to generate one: every class that is not a
hook class, in document order. -/
def generatedClasses (repo : Repository) (config : Config) : List GirClass :=
  (repo.classes.entries.filter fun e => !config.isHookClass e.1).map Prod.snd

namespace Generator

variable (g : Generator)

/-- The names of a class. -/
def namesOf (c : GirClass) : ClassNames := ClassNames.of g.naming c.name

/-- The package a class goes into: the one the overrides merge its package into, or its own. -/
def targetOf (c : GirClass) : String :=
  (g.overrides.mergeInto (g.namesOf c).package).getD (g.namesOf c).package

/-- The edits a class makes to the package it goes into. -/
def editsOf (c : GirClass) : List Package.Edit := g.classEdits c (g.namesOf c) (g.targetOf c)

/-- The diagnostics of a class. -/
def diagnosticsOf (c : GirClass) : List Diagnostic := g.classDiagnostics c (g.namesOf c)

/-- A class is one step of a package-set run: its package and its edits. -/
def classStep (c : GirClass) : String × List Package.Edit := (g.targetOf c, g.editsOf c)

theorem addClass_eq (ps : PackageSet) (ds : List Diagnostic) (c : GirClass) :
    g.addClass (ps, ds) c =
      (ps.update (g.targetOf c) (·.applyEdits (g.editsOf c)), ds ++ g.diagnosticsOf c) := by
  simp [addClass, classDraft_eq, PackageSet.update, targetOf, namesOf, editsOf, diagnosticsOf]

/-- Adding classes one by one is a package-set run of their steps, with their diagnostics in
order. -/
theorem foldl_addClass (cs : List GirClass) (ps : PackageSet) (ds : List Diagnostic) :
    cs.foldl g.addClass (ps, ds) = (ps.run (cs.map g.classStep), ds ++ cs.flatMap g.diagnosticsOf) := by
  induction cs generalizing ps ds with
  | nil => simp [PackageSet.run]
  | cons c cs ih =>
    rw [List.foldl_cons, addClass_eq, ih]
    simp [PackageSet.run, classStep]

/-- Without a class to single out, a run never fails: it generates the classes that are not
hook classes and writes the packages of their steps. -/
theorem generate_eq {config : Config} (h : config.onlyClass = none) :
    g.generate config =
      .ok ⟨(PackageSet.empty.run ((generatedClasses g.repository config).map g.classStep)).render
          fileHeader,
        (generatedClasses g.repository config).flatMap g.diagnosticsOf,
        (PackageSet.empty.run ((generatedClasses g.repository config).map g.classStep)).size⟩ := by
  simp [generate, generateInto, selected, h, generatedClasses, foldl_addClass, bind, Except.bind,
    pure, Except.pure]

/-- The edits made through the names of a key are those of the classes going into it. -/
theorem editsUnder_map_classStep (cs : List GirClass) (k : String) :
    PackageSet.editsUnder (cs.map g.classStep) k =
      (cs.filter fun c => PackageSet.key (g.targetOf c) == k).flatMap g.editsOf := by
  simp [PackageSet.editsUnder, List.filter_map, List.flatMap_map, classStep, Function.comp_def]

/-! ## What each class adds -/

/-- The Constructors blocks of a class: one declaration per constructor that binds, then the
type function's when it binds. -/
def constructorBlocks (c : GirClass) : List String :=
  (successes (c.constructors.map g.callableOutcome)).map
      (fun s => declaration g.naming (g.builder.constructor (g.namesOf c) s) indentStep) ++
    (g.getTypeBlock? c).toList

/-- The Methods blocks of a class: one declaration per method that binds. -/
def methodBlocks (c : GirClass) : List String :=
  (successes (c.methods.map g.callableOutcome)).map
    fun s => declaration g.naming [g.builder.method (g.namesOf c) s] indentStep

/-- The Properties blocks of a class: the listing of the bound properties, with one entry each,
and their constants, one each; nothing when none binds. -/
def propertyBlocks (c : GirClass) : List String :=
  let bound := g.boundProperties c (g.namesOf c)
  if bound.isEmpty then [] else [g.propertyListing bound, String.join (bound.map propertyConstant)]

/-- The private blocks of a class: the definitions of the bound properties' constants, one
each; nothing when none binds. -/
def privateBlocks (c : GirClass) : List String :=
  let bound := g.boundProperties c (g.namesOf c)
  if bound.isEmpty then [] else [String.join (bound.map propertyDefinition)]

/-- The Signals blocks of a class: the heading, then one block per bound signal; nothing when
none binds. -/
def signalBlocks (c : GirClass) : List String :=
  let bound := g.boundSignals c (g.namesOf c)
  if bound.isEmpty then [] else signalsHeading :: bound.map (g.signalText (g.namesOf c))

/-- The body blocks of a class: the bodies of the bound constructors, then of the bound
methods. -/
def bodyBlocks (c : GirClass) : List String :=
  (successes (c.constructors.map g.callableOutcome)).flatMap
      (fun s => g.bodyTexts (g.builder.constructor (g.namesOf c) s)) ++
    (successes (c.methods.map g.callableOutcome)).flatMap
      fun s => g.bodyTexts [g.builder.method (g.namesOf c) s]

section Traces

variable {β : Type} (sel : Package.Edit → Option β) (c : GirClass) (names : ClassNames)
  (target : String)

/-- The documentation of a class only sets the documentation. -/
theorem trace_docEdits (hsel : ∀ d, sel (.setDoc d) = none) :
    Package.Edit.trace sel (g.docEdits c names target) = [] := by
  unfold docEdits
  split <;> (try split) <;> simp [hsel]

/-- The type function, when it binds, asks for `Glib` and adds its block to the constructors. -/
@[simp] theorem trace_getTypeEdits :
    Package.Edit.trace sel (g.getTypeEdits c) =
      (g.getTypeBlock? c).toList.flatMap fun b =>
        (sel (.addWith "Glib")).toList ++ (sel (.addTo "Constructors" b)).toList := by
  unfold getTypeEdits
  cases g.getTypeBlock? c <;> simp

/-- The bound properties, when there are some, ask for their packages and add two Properties
blocks and one private block. -/
@[simp] theorem trace_propertyEdits (bound : List PropertyBinding) :
    Package.Edit.trace sel (g.propertyEdits bound) =
      if bound.isEmpty then []
      else
        bound.filterMap (fun b => sel (.addWith b.package)) ++
          (sel (.addTo "Properties" (g.propertyListing bound))).toList ++
          (sel (.addTo "Properties" (String.join (bound.map propertyConstant)))).toList ++
          (sel (.addPrivate (String.join (bound.map propertyDefinition)))).toList := by
  unfold propertyEdits
  split <;> simp

/-- The bound signals, when there are some, ask for `Glib` and add the heading, then each asks
for its packages and adds one Signals block. -/
@[simp] theorem trace_signalEdits (bound : List Signature) :
    Package.Edit.trace sel (g.signalEdits names bound) =
      if bound.isEmpty then []
      else
        (sel (.addWith "Glib")).toList ++ (sel (.addTo "Signals" signalsHeading)).toList ++
          bound.flatMap fun s =>
            s.packages.filterMap (fun o => sel (.addWith o)) ++
              (sel (.addTo "Signals" (g.signalText names s))).toList := by
  unfold signalEdits
  split <;> simp [Package.Edit.trace_flatMap, withEdits]

end Traces

/-! ## What each class leaves in its package -/

section Ledger

variable (c : GirClass)

theorem trace_editsOf_constructors :
    Package.Edit.trace (Package.Edit.blockFor? "Constructors") (g.editsOf c) =
      g.constructorBlocks c := by
  simp [editsOf, classEdits, constructorBlocks, typeEdits, constructorEdits, methodEdits,
    withEdits, bodyEdits, g.trace_docEdits (Package.Edit.blockFor? _) c _ _ fun _ => rfl,
    Package.Edit.trace_flatMap, Package.Edit.blockFor?,
    ← List.map_eq_flatMap, namesOf]

theorem trace_editsOf_methods :
    Package.Edit.trace (Package.Edit.blockFor? "Methods") (g.editsOf c) = g.methodBlocks c := by
  simp [editsOf, classEdits, methodBlocks, typeEdits, constructorEdits, methodEdits,
    withEdits, bodyEdits, g.trace_docEdits (Package.Edit.blockFor? _) c _ _ fun _ => rfl,
    Package.Edit.trace_flatMap, Package.Edit.blockFor?,
    ← List.map_eq_flatMap, namesOf]

theorem trace_editsOf_properties :
    Package.Edit.trace (Package.Edit.blockFor? "Properties") (g.editsOf c) =
      g.propertyBlocks c := by
  simp [editsOf, classEdits, propertyBlocks, typeEdits, constructorEdits, methodEdits,
    withEdits, bodyEdits, g.trace_docEdits (Package.Edit.blockFor? _) c _ _ fun _ => rfl,
    Package.Edit.trace_flatMap, Package.Edit.blockFor?,
    namesOf]

theorem trace_editsOf_signals :
    Package.Edit.trace (Package.Edit.blockFor? "Signals") (g.editsOf c) = g.signalBlocks c := by
  simp [editsOf, classEdits, signalBlocks, typeEdits, constructorEdits, methodEdits,
    withEdits, bodyEdits, g.trace_docEdits (Package.Edit.blockFor? _) c _ _ fun _ => rfl,
    Package.Edit.trace_flatMap, Package.Edit.blockFor?,
    ← List.map_eq_flatMap, namesOf]

theorem trace_editsOf_privates :
    Package.Edit.trace Package.Edit.privateBlock? (g.editsOf c) = g.privateBlocks c := by
  simp [editsOf, classEdits, privateBlocks, typeEdits, constructorEdits, methodEdits,
    withEdits, bodyEdits, g.trace_docEdits Package.Edit.privateBlock? c _ _ fun _ => rfl,
    Package.Edit.trace_flatMap, Package.Edit.privateBlock?,
    namesOf]

theorem trace_editsOf_bodies :
    Package.Edit.trace Package.Edit.bodyBlock? (g.editsOf c) = g.bodyBlocks c := by
  simp [editsOf, classEdits, bodyBlocks, typeEdits, constructorEdits, methodEdits,
    withEdits, bodyEdits, g.trace_docEdits Package.Edit.bodyBlock? c _ _ fun _ => rfl,
    Package.Edit.trace_flatMap, Package.Edit.bodyBlock?,
    namesOf]

end Ledger

/-- The package a run leaves under a name holds, section by section and in its private part and
body, the blocks of the classes that went into it, in order. -/
theorem package_of_run (cs : List GirClass) {m : String} {p : Package}
    (hp : (PackageSet.empty.run (cs.map g.classStep)).get? m = some p) :
    let into := cs.filter fun c => PackageSet.key (g.targetOf c) == PackageSet.key m
    p.blocksOf "Constructors" = into.flatMap g.constructorBlocks ∧
      p.blocksOf "Methods" = into.flatMap g.methodBlocks ∧
      p.blocksOf "Properties" = into.flatMap g.propertyBlocks ∧
      p.blocksOf "Signals" = into.flatMap g.signalBlocks ∧
      p.privateDecls = into.flatMap g.privateBlocks ∧
      p.bodyDecls = into.flatMap g.bodyBlocks := by
  intro into
  rw [PackageSet.get?_run, PackageSet.packageUnder] at hp
  obtain ⟨s, -, rfl⟩ := Option.map_eq_some_iff.1 hp
  have hf := SectionsFollow.of_new s.1 (PackageSet.editsUnder (cs.map g.classStep) (PackageSet.key m))
  rw [editsUnder_map_classStep] at hf ⊢
  refine ⟨?_, ?_, ?_, ?_, ?_, ?_⟩
  · rw [hf.blocksOf_eq]
    simp only [addedBlocks, Package.Edit.trace_flatMap, trace_editsOf_constructors, into]
  · rw [hf.blocksOf_eq]
    simp only [addedBlocks, Package.Edit.trace_flatMap, trace_editsOf_methods, into]
  · rw [hf.blocksOf_eq]
    simp only [addedBlocks, Package.Edit.trace_flatMap, trace_editsOf_properties, into]
  · rw [hf.blocksOf_eq]
    simp only [addedBlocks, Package.Edit.trace_flatMap, trace_editsOf_signals, into]
  · rw [Package.privateDecls_applyEdits]
    simp [Package.Edit.trace_flatMap, trace_editsOf_privates, into, Package.new]
  · rw [Package.bodyDecls_applyEdits]
    simp [Package.Edit.trace_flatMap, trace_editsOf_bodies, into, Package.new]

/-- Without a class to single out, a run succeeds, reports the diagnostics of its classes in
document order, and leaves in each package, section by section, exactly the blocks of the classes
that went into it. -/
theorem generate_accounts_for_every_member (repo : Repository) (overrides : Registry)
    (config : Config) (h : config.onlyClass = none) :
    let g := Generator.new repo overrides config
    let classes := generatedClasses repo config
    ∃ ps : PackageSet,
      g.generate config = .ok ⟨ps.render fileHeader, classes.flatMap g.diagnosticsOf, ps.size⟩ ∧
      (∀ m, (ps.get? m).isSome ↔ ∃ c ∈ classes, PackageSet.key (g.targetOf c) = PackageSet.key m) ∧
      ∀ m p, ps.get? m = some p →
        let into := classes.filter fun c => PackageSet.key (g.targetOf c) == PackageSet.key m
        p.blocksOf "Constructors" = into.flatMap g.constructorBlocks ∧
        p.blocksOf "Methods" = into.flatMap g.methodBlocks ∧
        p.blocksOf "Properties" = into.flatMap g.propertyBlocks ∧
        p.blocksOf "Signals" = into.flatMap g.signalBlocks ∧
        p.privateDecls = into.flatMap g.privateBlocks ∧
        p.bodyDecls = into.flatMap g.bodyBlocks := by
  intro g classes
  refine ⟨PackageSet.empty.run (classes.map g.classStep), g.generate_eq h, fun m => ?_,
    fun m p hp => g.package_of_run classes hp⟩
  rw [PackageSet.get?_run, PackageSet.isSome_packageUnder]
  simp [classStep]

/-- A run with the default settings over a class with a bound and a skipped member of each kind:
the skipped ones are reported in order, and the package holds the blocks of the bound ones. -/
theorem default_run_accounts_for_every_member :
    let text : Shape := .direct ⟨some "utf8", some "gchar*"⟩
    let frame : GirClass := ⟨"Frame", some "Bin", none, none,
      [⟨.constructor, "new", some "gtk_frame_new", [⟨"label", text, none⟩], none, none, none⟩,
        ⟨.constructor, "new_with_labels", some "gtk_frame_new_with_labels",
          [⟨"first", text, none⟩, ⟨"rest", .varargs, none⟩], none, none, none⟩],
      [⟨.method, "get_label", some "gtk_frame_get_label", [], some text, none, none⟩,
        ⟨.method, "set_labels", some "gtk_frame_set_labels",
          [⟨"first", text, none⟩, ⟨"rest", .varargs, none⟩], none, none, none⟩],
      [⟨"label", text, true, true, none⟩, ⟨"shadow", .unrecognized "<shadow/>", true, true, none⟩],
      [⟨.signal, "activate", none, [], none, none, none⟩,
        ⟨.signal, "collect", none, [⟨"rest", .varargs, none⟩], none, none, none⟩]⟩
    let repo : Repository := ⟨"Gtk", Index.empty.insert "Frame" frame, []⟩
    let g := Generator.new repo Registry.empty Config.default
    let classes := generatedClasses repo Config.default
    Config.default.onlyClass = none ∧
      classes.flatMap g.diagnosticsOf =
        [⟨"gtk_frame_new_with_labels", .varargs⟩, ⟨"gtk_frame_set_labels", .varargs⟩,
          ⟨"Gtk_Frame:shadow", .unknownType "shadow"⟩, ⟨"Gtk_Frame::collect", .varargs⟩] ∧
      (classes.flatMap g.constructorBlocks).length = 1 ∧ (classes.flatMap g.methodBlocks).length = 1 ∧
      (classes.flatMap g.propertyBlocks).length = 2 ∧ (classes.flatMap g.signalBlocks).length = 2 ∧
      ∃ ps : PackageSet,
        g.generate Config.default =
            .ok ⟨ps.render fileHeader, classes.flatMap g.diagnosticsOf, ps.size⟩ ∧
        (∀ m, (ps.get? m).isSome ↔ ∃ c ∈ classes, PackageSet.key (g.targetOf c) = PackageSet.key m) ∧
        ∀ m p, ps.get? m = some p →
          let into := classes.filter fun c => PackageSet.key (g.targetOf c) == PackageSet.key m
          p.blocksOf "Constructors" = into.flatMap g.constructorBlocks ∧
          p.blocksOf "Methods" = into.flatMap g.methodBlocks ∧
          p.blocksOf "Properties" = into.flatMap g.propertyBlocks ∧
          p.blocksOf "Signals" = into.flatMap g.signalBlocks ∧
          p.privateDecls = into.flatMap g.privateBlocks ∧
          p.bodyDecls = into.flatMap g.bodyBlocks := by
  intro text frame repo g classes
  have hclasses : classes = [frame] := rfl
  have hsorted : sortedSignals frame = frame.signals := List.mergeSort_of_pairwise (by decide)
  refine ⟨rfl, ?_, by decide +kernel, by decide +kernel, by decide +kernel, ?_,
    generate_accounts_for_every_member _ Registry.empty Config.default rfl⟩
  · simp only [hclasses, List.flatMap_singleton, diagnosticsOf, classDiagnostics, hsorted]
    decide +kernel
  · simp only [hclasses, List.flatMap_singleton, signalBlocks, boundSignals, hsorted]
    decide +kernel

end Generator

end GirAda
