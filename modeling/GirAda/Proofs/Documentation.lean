import GirAda.Proofs.Accounting

/-!
# The documentation of a package

A class sets the documentation of the package it goes into over whatever was there, so after a
run a package carries the documentation of the last class going into it that gives one. What a
class gives is decided by its own package name: the overrides' entry for that package when there
is one, and otherwise the class's own documentation, cleaned, but only when the class goes into
its own package. A class merged into another package therefore never brings its own
documentation there, but it does bring the overrides' entry for its own package.

Main statement: `package_docs_of_run`.
-/

namespace GirAda

open GirAda.Gir GirAda.Ada GirAda.Override GirAda.Doc

namespace Ada

/-- The documentation an edit sets, if it sets one. -/
def Package.Edit.doc? : Package.Edit → Option String
  | .setDoc d => some d
  | .addWith _ | .openSection _ | .addTo _ _ | .addPrivate _ | .addBody _ => none

/-- The documentation a history of edits sets, in order. -/
@[simp] def setDocs (es : List Package.Edit) : List String :=
  Package.Edit.trace Package.Edit.doc? es

namespace Package

/-- Only setting the documentation changes it. -/
theorem doc_apply (p : Package) (e : Edit) : (e.apply p).doc = e.doc?.or p.doc := by
  cases e with
  | setDoc d => rfl
  | addWith o =>
    show (p.addWith o).doc = p.doc
    unfold addWith
    split <;> rfl
  | openSection n =>
    show (p.openSection n).doc = p.doc
    unfold openSection
    split <;> rfl
  | addTo n t =>
    show (p.openSection n).doc = p.doc
    unfold openSection
    split <;> rfl
  | addPrivate t => rfl
  | addBody t => rfl

/-- After a history of edits the documentation is the last one they set, or else what was there. -/
theorem doc_applyEdits (p : Package) (es : List Edit) :
    (p.applyEdits es).doc = (setDocs es).getLast?.or p.doc := by
  induction es generalizing p with
  | nil => rfl
  | cons e es ih =>
    rw [applyEdits_cons, ih, doc_apply]
    cases he : e.doc? with
    | none => simp [he]
    | some d =>
      cases hl : (Edit.trace Edit.doc? es).getLast? <;> simp [he, hl, List.getLast?_cons]

end Package

end Ada

namespace Generator

variable (g : Generator)

/-- The documentation a class gives the package it goes into: the overrides' entry for its own
package, or else, when it goes into its own package, its own documentation cleaned. -/
def classDoc? (c : GirClass) : Option String :=
  match g.overrides.packageDoc (g.namesOf c).package, c.doc with
  | some doc, _ => some doc
  | none, some doc =>
    if g.targetOf c == (g.namesOf c).package then some (cleanDoc g.naming doc) else none
  | none, none => none

/-- A class going into its own package gives the overrides' entry for it, or else its own
documentation; a class merged into another package gives the overrides' entry for its own
package and nothing else. -/
theorem classDoc?_eq (c : GirClass) :
    g.classDoc? c =
      if g.targetOf c = (g.namesOf c).package then
        (g.overrides.packageDoc (g.namesOf c).package).or (c.doc.map (cleanDoc g.naming))
      else g.overrides.packageDoc (g.namesOf c).package := by
  unfold classDoc?
  cases g.overrides.packageDoc (g.namesOf c).package <;> cases c.doc <;>
    by_cases h : g.targetOf c = (g.namesOf c).package <;> simp [h]

/-- The only documentation a class's edits set is the one it gives. -/
theorem trace_editsOf_docs (c : GirClass) :
    Package.Edit.trace Package.Edit.doc? (g.editsOf c) = (g.classDoc? c).toList := by
  have hdoc : Package.Edit.trace Package.Edit.doc? (g.docEdits c (g.namesOf c) (g.targetOf c)) =
      (g.classDoc? c).toList := by
    unfold docEdits classDoc?
    cases g.overrides.packageDoc (g.namesOf c).package <;> cases c.doc <;>
      by_cases h : g.targetOf c = (g.namesOf c).package <;> simp [h, Package.Edit.doc?]
  simp [editsOf, classEdits, hdoc, typeEdits, constructorEdits, methodEdits, withEdits, bodyEdits,
    Package.Edit.trace_flatMap, Package.Edit.doc?]

/-- After a run, the package under a name carries the documentation of the last class going
into it that gives one. -/
theorem doc_of_run (cs : List GirClass) {m : String} {p : Package}
    (hp : (PackageSet.empty.run (cs.map g.classStep)).get? m = some p) :
    p.doc = ((cs.filter fun c => PackageSet.key (g.targetOf c) == PackageSet.key m).filterMap
      g.classDoc?).getLast? := by
  rw [PackageSet.get?_run, PackageSet.packageUnder] at hp
  obtain ⟨s, -, rfl⟩ := Option.map_eq_some_iff.1 hp
  rw [Package.doc_applyEdits, editsUnder_map_classStep, setDocs, Package.Edit.trace_flatMap]
  simp only [trace_editsOf_docs, Package.new, Option.or_none]
  rw [← List.filterMap_eq_flatMap_toList]

/-- Without a class to single out, each package carries the documentation of the last class going
into it that gives one; a class merged elsewhere gives only the overrides' entry for its own. -/
theorem package_docs_of_run (repo : Repository) (overrides : Registry) (config : Config)
    (h : config.onlyClass = none) :
    let g := Generator.new repo overrides config
    let classes := generatedClasses repo config
    ∃ ps : PackageSet,
      g.generate config = .ok ⟨ps.render fileHeader, classes.flatMap g.diagnosticsOf, ps.size⟩ ∧
      (∀ m p, ps.get? m = some p →
        p.doc = ((classes.filter fun c => PackageSet.key (g.targetOf c) == PackageSet.key m).filterMap
          g.classDoc?).getLast?) ∧
      ∀ c, g.classDoc? c =
        if g.targetOf c = (g.namesOf c).package then
          (overrides.packageDoc (g.namesOf c).package).or (c.doc.map (cleanDoc g.naming))
        else overrides.packageDoc (g.namesOf c).package := by
  intro g classes
  refine ⟨PackageSet.empty.run (classes.map g.classStep), ?_, fun m p hp => g.doc_of_run classes hp,
    g.classDoc?_eq⟩
  rw [g.generate_eq h]
  rfl

/-- `Gtk.Frame` merged into `Gtk.Bin`, with documentation for `Gtk.Frame` in the overrides. -/
theorem frame_merged_into_bin_docs :
    Config.default.onlyClass = none ∧
      let repo : Repository := ⟨"Gtk",
        (Index.empty.insert "Bin" ⟨"Bin", none, none, none, [], [], [], []⟩).insert "Frame"
          ⟨"Frame", some "Bin", none, none, [], [], [], []⟩, []⟩
      let overrides :=
        Registry.empty.addPackage "Gtk.Frame" ⟨some "Gtk.Bin", some "A bin with a decorative frame."⟩
      let g := Generator.new repo overrides Config.default
      let classes := generatedClasses repo Config.default
      ∃ ps : PackageSet,
        g.generate Config.default =
            .ok ⟨ps.render fileHeader, classes.flatMap g.diagnosticsOf, ps.size⟩ ∧
        (∀ m p, ps.get? m = some p →
          p.doc = ((classes.filter fun c => PackageSet.key (g.targetOf c) == PackageSet.key m).filterMap
            g.classDoc?).getLast?) ∧
        ∀ c, g.classDoc? c =
          if g.targetOf c = (g.namesOf c).package then
            (overrides.packageDoc (g.namesOf c).package).or (c.doc.map (cleanDoc g.naming))
          else overrides.packageDoc (g.namesOf c).package :=
  ⟨rfl, package_docs_of_run _ _ _ rfl⟩

/-- A class merged into another package can document its host: merging `Gtk.Frame` into
`Gtk.Bin` documents `Gtk.Bin` with the overrides' entry for `Gtk.Frame`, although the overrides
give `Gtk.Bin` no documentation and no class of the document has any. -/
theorem merged_frame_documents_bin :
    let bin : GirClass := ⟨"Bin", none, none, none, [], [], [], []⟩
    let frame : GirClass := ⟨"Frame", some "Bin", none, none, [], [], [], []⟩
    let repo : Repository := ⟨"Gtk", (Index.empty.insert "Bin" bin).insert "Frame" frame, []⟩
    let overrides :=
      Registry.empty.addPackage "Gtk.Frame" ⟨some "Gtk.Bin", some "A bin with a decorative frame."⟩
    let g := Generator.new repo overrides Config.default
    overrides.packageDoc "Gtk.Bin" = none ∧
      (∀ c ∈ generatedClasses repo Config.default, c.doc = none) ∧
      (g.namesOf frame).package = "Gtk.Frame" ∧ g.targetOf frame = "Gtk.Bin" ∧
      ((g.generateInto Config.default PackageSet.empty).toOption.bind fun run =>
        (run.1.get? "Gtk.Bin").bind Package.doc) = some "A bin with a decorative frame." :=
  ⟨rfl, by decide, by decide, by decide, by decide +kernel⟩

end Generator

end GirAda
