import GirAda.Proofs.Accounting
import GirAda.Proofs.Calls

/-!
# `with` clauses

A package names the packages its declarations refer to in `with` clauses. They are added one at
a time, by the type declaration, by every bound constructor, method and signal, by the type
function and by the bound properties of each class that goes into the package, and the package
keeps them as a sorted list without repeats. It never names itself, one of its ancestors
(`Gtk` and `Gtk.Frame` for `Gtk.Frame.Label`, but not `Gtk.Fr`) or the empty name.

`mem_withs_applyEdits` says what a history of edits leaves in the `with` clauses, `trace_editsOf_withs`
what one class asks for, and `with_clauses_of_run` puts them together for a whole run: the `with`
clauses of a package are exactly the packages its classes need, less the package itself, its
ancestors and the empty name. In particular every package that a resolved type of a bound
declaration lives in is named, unless it is the package or one of its ancestors.
-/

namespace GirAda

open GirAda.Gir GirAda.Ada

namespace Ada

/-! ## Sorted insertion -/

theorem mem_insertSorted {x y : String} {l : List String} : y ∈ insertSorted x l ↔ y = x ∨ y ∈ l := by
  induction l with
  | nil => simp [insertSorted]
  | cons z l ih =>
    unfold insertSorted
    split
    · simp
    · split
      · next h => simp [h]
      · simp only [List.mem_cons, ih]
        tauto

theorem pairwise_insertSorted (x : String) {l : List String} (h : l.Pairwise (· < ·)) :
    (insertSorted x l).Pairwise (· < ·) := by
  induction l with
  | nil => simp [insertSorted]
  | cons z l ih =>
    obtain ⟨hz, hl⟩ := List.pairwise_cons.1 h
    unfold insertSorted
    split
    · next hxz =>
      exact List.pairwise_cons.2 ⟨fun b hb => (List.mem_cons.1 hb).elim (· ▸ hxz)
        fun hb => lt_trans hxz (hz b hb), h⟩
    · split
      · exact h
      · next hxz hne =>
        have hzx : z < x := lt_of_le_of_ne (not_lt.1 hxz) (Ne.symm hne)
        exact List.pairwise_cons.2 ⟨fun b hb => (mem_insertSorted.1 hb).elim (· ▸ hzx) (hz b),
          ih hl⟩

/-! ## What edits add -/

namespace Package.Edit

/-- The package an edit asks a `with` clause for, if any. -/
def withFor? : Edit → Option String
  | addWith o => some o
  | setDoc _ | openSection _ | addTo _ _ | addPrivate _ | addBody _ => none

end Package.Edit

/-- The packages a history of edits asked `with` clauses for, in order. -/
@[simp] def addedWiths (es : List Package.Edit) : List String :=
  Package.Edit.trace Package.Edit.withFor? es

namespace Package

variable (p : Package)

/-- Whether a name is the package or one of its ancestors, said without `isAncestor`. -/
theorem isAncestor_eq_false_iff (w : String) :
    p.isAncestor w = false ↔ w ≠ p.name ∧ ¬ p.name.startsWith (w ++ ".") := by
  unfold isAncestor
  rw [Bool.or_eq_false_iff, beq_eq_false_iff_ne, Bool.eq_false_iff, ne_comm]

theorem mem_withs_addWith (o w : String) :
    w ∈ (p.addWith o).withs ↔ w ∈ p.withs ∨ (w = o ∧ o ≠ "" ∧ p.isAncestor o = false) := by
  unfold addWith
  split
  · next h =>
    simp only [Bool.or_eq_true] at h
    constructor
    · exact .inl
    · rintro (hw | ⟨-, hne, hanc⟩)
      · exact hw
      · rcases h with h | h
        · exact absurd (String.isEmpty_iff.1 h) hne
        · simp [h] at hanc
  · next h =>
    simp only [Bool.or_eq_true, not_or, Bool.not_eq_true] at h
    have hne : o ≠ "" := fun ho => by simp [ho] at h
    simp [mem_insertSorted, hne, h.2, or_comm]

theorem withs_addWith_pairwise (o : String) (h : p.withs.Pairwise (· < ·)) :
    (p.addWith o).withs.Pairwise (· < ·) := by
  unfold addWith
  split
  · exact h
  · exact pairwise_insertSorted o h

@[simp] theorem withs_openSection (n : String) : (p.openSection n).withs = p.withs := by
  unfold openSection
  split <;> rfl

/-- Edits other than `addWith` leave the `with` clauses alone. -/
theorem withs_apply_of_withFor? {e : Edit} (he : e.withFor? = none) : (e.apply p).withs = p.withs := by
  cases e with
  | addWith o => simp [Edit.withFor?] at he
  | openSection n => exact withs_openSection p n
  | addTo n t => exact withs_openSection p n
  | setDoc | addPrivate | addBody => rfl

/-- One edit adds to the `with` clauses at most the package it asks for, and not the empty name,
the package or an ancestor. -/
theorem mem_withs_apply (e : Edit) (w : String) :
    w ∈ (e.apply p).withs ↔
      w ∈ p.withs ∨ (w ∈ e.withFor?.toList ∧ w ≠ "" ∧ p.isAncestor w = false) := by
  cases he : e.withFor? with
  | none => simp [withs_apply_of_withFor? p he]
  | some o =>
    cases e <;> simp only [Edit.withFor?, reduceCtorEq, Option.some.injEq] at he
    subst he
    simp only [Edit.apply, mem_withs_addWith, Option.toList_some, List.mem_singleton]
    refine or_congr_right ⟨?_, ?_⟩ <;> rintro ⟨rfl, hne, hanc⟩ <;> exact ⟨rfl, hne, hanc⟩

theorem pairwise_withs_apply (e : Edit) (h : p.withs.Pairwise (· < ·)) :
    (e.apply p).withs.Pairwise (· < ·) := by
  cases he : e.withFor? with
  | none => rwa [withs_apply_of_withFor? p he]
  | some o =>
    cases e <;> simp only [Edit.withFor?, reduceCtorEq, Option.some.injEq] at he
    exact withs_addWith_pairwise p _ h

/-- The `with` clauses after edits: those there before, and those the edits asked for, less the
empty name, the package and its ancestors. -/
theorem mem_withs_applyEdits (es : List Edit) (w : String) :
    w ∈ (p.applyEdits es).withs ↔
      w ∈ p.withs ∨ (w ∈ addedWiths es ∧ w ≠ "" ∧ p.isAncestor w = false) := by
  induction es generalizing p with
  | nil => simp
  | cons e es ih =>
    -- no edit renames the package, so its ancestors stay the same
    have hanc : (e.apply p).isAncestor w = p.isAncestor w := by simp [isAncestor]
    rw [applyEdits_cons, ih, hanc, mem_withs_apply]
    simp only [addedWiths, Edit.trace_cons, List.mem_append, or_and_right, or_assoc]

theorem pairwise_withs_applyEdits (es : List Edit) (h : p.withs.Pairwise (· < ·)) :
    (p.applyEdits es).withs.Pairwise (· < ·) := by
  induction es generalizing p with
  | nil => exact h
  | cons e es ih => exact ih _ (pairwise_withs_apply p e h)

end Package

end Ada

/-! ## What a class asks for -/

namespace Ada.Signature

/-- The resolved types of a signature: those of its parameters, then the returned one. -/
def resolvedTypes (s : Signature) : List AdaType :=
  s.parameters.filterMap (·.ty.adaType?) ++ s.returnedType.toList

/-- The packages of a signature are those its resolved types live in. -/
theorem mem_packages {s : Signature} {w : String} :
    w ∈ s.packages ↔ ∃ t ∈ s.resolvedTypes, w ∈ t.mapping.packages := by
  simp [packages, resolvedTypes, mem_dedupNeighbours, List.mem_flatMap, or_and_right, exists_or]

end Ada.Signature

namespace Generator

variable (g : Generator)

/-- The signatures a class emits: its bound constructors, its bound methods and its bound
signals. -/
def emittedSignatures (c : GirClass) : List Signature :=
  successes (c.constructors.map g.callableOutcome) ++ successes (c.methods.map g.callableOutcome) ++
    g.boundSignals c (g.namesOf c)

/-- The packages a class needs `with` clauses for: its parent's package (`Glib.Object` without a
parent); for each bound constructor and method the packages of its signature with `Glib.Object`
and `System`; `Glib` for a bound type function; the package of each bound property; and, when
some signal binds, `Glib` with the packages of each bound signal. -/
def neededPackages (c : GirClass) : List String :=
  let names := g.namesOf c
  let signals := g.boundSignals c names
  (g.parentOf c).1 ::
    ((successes (c.constructors.map g.callableOutcome)).flatMap fun s =>
      s.packages ++ ["Glib.Object", "System"]) ++
    (if (g.getTypeBlock? c).isSome then ["Glib"] else []) ++
    ((successes (c.methods.map g.callableOutcome)).flatMap fun s =>
      s.packages ++ ["Glib.Object", "System"]) ++
    (g.boundProperties c names).map (·.package) ++
    (if signals.isEmpty then [] else "Glib" :: signals.flatMap (·.packages))

/-- A class asks for exactly the packages it needs, whatever package it goes into. -/
theorem trace_editsOf_withs (c : GirClass) :
    Package.Edit.trace Package.Edit.withFor? (g.editsOf c) = g.neededPackages c := by
  have hgetType : ((g.getTypeBlock? c).toList.flatMap fun _ => ["Glib"]) =
      if (g.getTypeBlock? c).isSome then ["Glib"] else [] := by
    cases g.getTypeBlock? c <;> rfl
  simp [editsOf, classEdits, neededPackages, typeEdits, constructorEdits, methodEdits, withEdits,
    bodyEdits, g.trace_docEdits Package.Edit.withFor? c _ _ fun _ => rfl,
    Package.Edit.trace_flatMap, Package.Edit.withFor?, hgetType]

/-- A class needs every package of every signature it emits. -/
theorem mem_neededPackages_of_emitted {c : GirClass} {s : Signature} (hs : s ∈ g.emittedSignatures c)
    {w : String} (hw : w ∈ s.packages) : w ∈ g.neededPackages c := by
  simp only [emittedSignatures, List.mem_append] at hs
  rcases hs with (hs | hs) | hs
  · simp only [neededPackages, List.mem_cons, List.mem_append, List.mem_flatMap]
    exact .inl (.inl (.inl (.inl (.inr ⟨s, hs, .inl hw⟩))))
  · simp only [neededPackages, List.mem_cons, List.mem_append, List.mem_flatMap]
    exact .inl (.inl (.inr ⟨s, hs, .inl hw⟩))
  · have hne : (g.boundSignals c (g.namesOf c)).isEmpty = false :=
      List.isEmpty_eq_false_iff.2 (List.ne_nil_of_mem hs)
    simp only [neededPackages, hne, Bool.false_eq_true, if_false, List.mem_cons, List.mem_append,
      List.mem_flatMap]
    exact .inr (.inr ⟨s, hs, hw⟩)

/-! ## A whole run -/

/-- The `with` clauses of a package after a run, over the classes that went into it. -/
theorem withs_of_run (cs : List GirClass) {m : String} {p : Package}
    (hp : (PackageSet.empty.run (cs.map g.classStep)).get? m = some p) :
    let into := cs.filter fun c => PackageSet.key (g.targetOf c) == PackageSet.key m
    p.withs.Pairwise (· < ·) ∧
      ∀ w, w ∈ p.withs ↔ (∃ c ∈ into, w ∈ g.neededPackages c) ∧ w ≠ "" ∧ w ≠ p.name ∧
        ¬ p.name.startsWith (w ++ ".") := by
  intro into
  rw [PackageSet.get?_run, PackageSet.packageUnder] at hp
  obtain ⟨s, -, rfl⟩ := Option.map_eq_some_iff.1 hp
  rw [editsUnder_map_classStep]
  refine ⟨Package.pairwise_withs_applyEdits _ _ List.Pairwise.nil, fun w => ?_⟩
  rw [Package.mem_withs_applyEdits, Package.name_applyEdits, Package.isAncestor_eq_false_iff,
    addedWiths, Package.Edit.trace_flatMap]
  simp [Package.new, trace_editsOf_withs, into, and_assoc]

end Generator

/-- After a run, the `with` clauses of each package are sorted and name exactly the packages its
classes need, less the empty name, the package and its ancestors. -/
theorem with_clauses_of_run (g : Generator) (cs : List GirClass) :
    let ps := (cs.foldl g.addClass (PackageSet.empty, [])).1
    (∀ m, (ps.get? m).isSome ↔ ∃ c ∈ cs, PackageSet.key (g.targetOf c) = PackageSet.key m) ∧
    ∀ m p, ps.get? m = some p →
      let into := cs.filter fun c => PackageSet.key (g.targetOf c) == PackageSet.key m
      p.withs.Pairwise (· < ·) ∧
      (∀ w, w ∈ p.withs ↔ (∃ c ∈ into, w ∈ g.neededPackages c) ∧ w ≠ "" ∧ w ≠ p.name ∧
        ¬ p.name.startsWith (w ++ ".")) ∧
      ∀ c ∈ into, ∀ s ∈ g.emittedSignatures c, ∀ t ∈ s.resolvedTypes, ∀ w ∈ t.mapping.packages,
        w ≠ "" → w ≠ p.name → ¬ p.name.startsWith (w ++ ".") → w ∈ p.withs := by
  intro ps
  have hps : ps = PackageSet.empty.run (cs.map g.classStep) := by
    simp [ps, Generator.foldl_addClass]
  refine ⟨fun m => ?_, fun m p hp => ?_⟩
  · rw [hps, PackageSet.get?_run, PackageSet.isSome_packageUnder]
    simp [Generator.classStep]
  · rw [hps] at hp
    obtain ⟨hsorted, hmem⟩ := g.withs_of_run cs hp
    refine ⟨hsorted, hmem, fun c hc s hs t ht w hw hne hname hanc =>
      (hmem w).2 ⟨⟨c, hc, ?_⟩, hne, hname, hanc⟩⟩
    exact g.mem_neededPackages_of_emitted hs (Ada.Signature.mem_packages.2 ⟨t, ht, hw⟩)

end GirAda
