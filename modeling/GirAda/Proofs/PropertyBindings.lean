import Mathlib.Data.List.TakeDrop
import Mathlib.Data.List.TakeWhile
import GirAda.Proofs.Contribution
import GirAda.Proofs.Resolution

/-!
# Binding the properties of a class

`bindClass` splits the properties of a class in two. A property whose type classifies to a
scalar or an object is bound; any other is skipped, an array as an unsupported property type and
a type that cannot be bound for the reason `resolveFor` gives. Every property lands on exactly one
side (`names_bindClass_perm`). The skipped ones keep document order; the bound ones are sorted by
native name, and properties of one name keep their document order (`filter_mergeSort_key`).

A binding's type and package follow one rule (`scalarType_of_listed`, `scalarType_of_unlisted`,
`bindProperty_of_object`): a scalar whose native type the table lists takes the listed suffix, an
object takes the object suffix, and any other scalar takes its own Ada type, declared in the
namespace's `Enums` package when that type belongs to the namespace. The rule asks the name, not
the document, whether a type belongs to the namespace; it agrees with the resolver on the
enumerations of the document because their Ada types are always spelled with the namespace in
front (`startsWith_typeName`), whatever the naming exceptions.

Main statement: `bindClass_partitions_properties`.
-/

namespace GirAda.Ada

open GirAda.Gir

/-! ## Sorting by a key -/

section Sorting

variable {α : Type} (key : α → String)

/-- The order of a text key is transitive. -/
theorem le_key_trans (a b c : α) (hab : decide (key a ≤ key b) = true)
    (hbc : decide (key b ≤ key c) = true) : decide (key a ≤ key c) = true := by
  simp only [decide_eq_true_eq] at hab hbc ⊢
  exact String.le_trans hab hbc

/-- The order of a text key is total. -/
theorem le_key_total (a b : α) : (decide (key a ≤ key b) || decide (key b ≤ key a)) = true := by
  simpa using String.le_total (key a) (key b)

/-- Sorting by a text key with `mergeSort` keeps the elements of one key in the order they had. -/
theorem filter_mergeSort_key (l : List α) (k : String) :
    (l.mergeSort fun a b => decide (key a ≤ key b)).filter (fun a => key a == k) =
      l.filter (fun a => key a == k) := by
  -- the elements of key `k` are sorted already, so the sort keeps them as a sublist
  have hsorted : (l.filter fun a => key a == k).Pairwise fun a b => decide (key a ≤ key b) := by
    refine List.Pairwise.imp_of_mem ?_ (List.pairwise_of_forall fun _ _ => trivial)
    intro a b ha hb _
    simp only [List.mem_filter, beq_iff_eq] at ha hb
    simp [ha.2, hb.2]
  have hsub := (List.sublist_mergeSort (le_key_trans key) (le_key_total key) hsorted
    (List.filter_sublist ..)).filter fun a => key a == k
  rw [List.filter_filter, List.filter_congr (fun a _ => Bool.and_self _)] at hsub
  have hlen : (l.filter fun a => key a == k).length =
      ((l.mergeSort fun a b => decide (key a ≤ key b)).filter fun a => key a == k).length :=
    (((List.mergeSort_perm l _).filter _).length_eq).symm
  exact (hsub.eq_of_length hlen).symm

/-- Sorting by a text key with `mergeSort` orders the elements by their keys. -/
theorem pairwise_mergeSort_key (l : List α) :
    (l.mergeSort fun a b => decide (key a ≤ key b)).Pairwise (fun a b => key a ≤ key b) := by
  simpa using List.pairwise_mergeSort (le_key_trans key) (le_key_total key) l

end Sorting

namespace PropertyTypes

/-- The table with more entries, each added by `insert`, in order. -/
def insertAll (pt : PropertyTypes) (es : List (String × String)) : PropertyTypes :=
  es.foldl (fun t e => t.insert e.1 e.2) pt

@[simp] theorem package_insertAll (pt : PropertyTypes) (es : List (String × String)) :
    (pt.insertAll es).package = pt.package := by
  induction es generalizing pt with
  | nil => rfl
  | cons e es ih => exact ih (pt.insert e.1 e.2)

@[simp] theorem object_insertAll (pt : PropertyTypes) (es : List (String × String)) :
    (pt.insertAll es).object = pt.object := by
  induction es generalizing pt with
  | nil => rfl
  | cons e es ih => exact ih (pt.insert e.1 e.2)

/-- The binding of a property with a property type and the package declaring it. -/
def bindingWith (n : Naming) (p : Property) (tp : String × String) : PropertyBinding :=
  ⟨p.name, n.case p.name ++ "_Property", tp.1, tp.2, accessFlags p.readable p.writable, p.doc⟩

variable (pt : PropertyTypes) (n : Naming) (ty : AdaType)

theorem scalarType_of_listed {suffix : String} (h : latestEntry pt.byNative ty.native = some suffix) :
    pt.scalarType n ty = (suffix, pt.package) := by
  simp [scalarType, h]

theorem scalarType_of_unlisted (h : latestEntry pt.byNative ty.native = none) :
    pt.scalarType n ty = (ty.mapping.param,
      if ty.mapping.param.startsWith (n.case n.space ++ "_") then n.case n.space ++ ".Enums"
      else pt.package) := by
  simp only [scalarType, h]
  split <;> rfl

/-! ## One property -/

variable (r : Resolver) (p : Property)

/-- A property whose type does not resolve is skipped for the reason `resolveFor` gives. -/
theorem bindProperty_of_resolveFor_error {k : Skip} (h : r.resolveFor p.name p.shape = .error k) :
    pt.bindProperty r p = .error k := by
  simp [bindProperty, h, bind, Except.bind]

theorem bindProperty_of_scalar {ty : AdaType} {byRef : Bool}
    (h : r.classify p.shape = .scalar ty byRef) :
    pt.bindProperty r p = .ok (bindingWith r.naming p (pt.scalarType r.naming ty)) := by
  have hd : r.resolveFor p.name p.shape = .ok (.scalar ty byRef) := by
    rw [Resolver.resolveFor_eq, h]
    rfl
  simp [bindProperty, hd, bind, Except.bind, pure, Except.pure, bindingWith]

theorem bindProperty_of_object {ty : AdaType} (h : r.classify p.shape = .object ty) :
    pt.bindProperty r p = .ok (bindingWith r.naming p (pt.object, pt.package)) := by
  have hd : r.resolveFor p.name p.shape = .ok (.object ty) := by
    rw [Resolver.resolveFor_eq, h]
    rfl
  simp [bindProperty, hd, bind, Except.bind, pure, Except.pure, bindingWith]

/-- An array cannot be the type of a property; the reason shows the array's descriptor. -/
theorem bindProperty_of_array {ty : AdaType} {e : Descriptor} (h : r.classify p.shape = .array ty e) :
    pt.bindProperty r p = .error (.unsupportedProperty (Descriptor.array ty e).display) := by
  have hd : r.resolveFor p.name p.shape = .ok (.array ty e) := by
    rw [Resolver.resolveFor_eq, h]
    rfl
  simp only [bindProperty, hd, bind, Except.bind]
  rfl

/-- A property is bound exactly when its type classifies to a scalar or an object. -/
theorem bindProperty_isOk_iff :
    (∃ b, pt.bindProperty r p = .ok b) ↔
      (∃ ty x, r.classify p.shape = .scalar ty x) ∨ ∃ ty, r.classify p.shape = .object ty := by
  cases hc : r.classify p.shape with
  | scalar ty x => simp [bindProperty_of_scalar pt r p hc]
  | object ty => simp [bindProperty_of_object pt r p hc]
  | array ty e => simp [bindProperty_of_array pt r p hc]
  | variadic | unknown =>
    have hb : (r.classify p.shape).bindable = false := by
      simp [hc, Descriptor.bindable, Descriptor.adaType?]
    rw [bindProperty_of_resolveFor_error pt r p (by rw [Resolver.resolveFor_eq, if_neg (by simp [hb])])]
    simp

/-- A binding carries the property's native name, its Ada name, its access and its
documentation. -/
theorem fields_of_bindProperty {b : PropertyBinding} (h : pt.bindProperty r p = .ok b) :
    b.nativeName = p.name ∧ b.adaName = r.naming.case p.name ++ "_Property" ∧
      b.flags = accessFlags p.readable p.writable ∧ b.doc = p.doc := by
  obtain ⟨ty, x, hc⟩ | ⟨ty, hc⟩ := (bindProperty_isOk_iff pt r p).1 ⟨b, h⟩
  · rw [bindProperty_of_scalar pt r p hc, Except.ok.injEq] at h
    subst h
    exact ⟨rfl, rfl, rfl, rfl⟩
  · rw [bindProperty_of_object pt r p hc, Except.ok.injEq] at h
    subst h
    exact ⟨rfl, rfl, rfl, rfl⟩

/-! ## Enumerations of the document -/

/-- A name without a `.` belongs to the namespace. -/
theorem qualify_of_unqualified {name : String} (h : '.' ∉ name.toList) :
    n.qualify name = (n.space, name) := by
  have hall : ∀ c ∈ name.toList.reverse, (c != '.') = true := fun c hc => by
    simp only [bne_iff_ne, ne_eq]
    rintro rfl
    exact h (List.mem_reverse.1 hc)
  simp [Naming.qualify, List.span_eq_takeWhile_dropWhile, List.dropWhile_eq_nil_iff.2 hall]

/-- The Ada type of a name of the namespace starts with the namespace. -/
theorem startsWith_typeName {name : String} (h : '.' ∉ name.toList) :
    (n.typeName name).startsWith (n.case n.space ++ "_") = true := by
  simp [Naming.typeName, qualify_of_unqualified n h, String.toList_append]

/-- An enumeration of the document that the type table does not map is a scalar of its Ada
type, declared in the namespace's `Enums` package. -/
theorem classify_of_enumeration {name : String} {ct : Option String}
    (henum : r.repository.isEnumeration name = true) (hne : name ≠ "") (hnone : name ≠ "none")
    (htable : r.table.lookup (some name) ct = none) :
    ∃ x, r.classify (.direct ⟨some name, ct⟩) = .scalar ⟨name, ct.getD "",
      Mapping.direct (r.naming.typeName name) (some (r.naming.case r.naming.space ++ ".Enums"))⟩ x := by
  have hempty : name.isEmpty = false := by simpa using hne
  have hbeq : (name == "none") = false := by simpa using hnone
  simp [Resolver.classify, Resolver.direct, htable, hempty, hbeq, henum]

end PropertyTypes

/-! ## The properties of a class -/

namespace PropertyTypes

variable (pt : PropertyTypes) (r : Resolver) (c : GirClass)

/-- The bound properties are those that bind, sorted by native name. -/
theorem bindClass_fst_eq :
    (pt.bindClass r c).1 = (successes (c.properties.map (pt.bindProperty r))).mergeSort
      fun a b => decide (a.nativeName ≤ b.nativeName) := by
  simp only [bindClass]
  congr 1
  induction c.properties with
  | nil => rfl
  | cons p ps ih => cases h : pt.bindProperty r p <;> simp [h, ih]

/-- The skipped properties are those that do not bind, in document order, with their reasons. -/
theorem bindClass_snd_eq :
    (pt.bindClass r c).2 = c.properties.filterMap fun p => (failure? (pt.bindProperty r p)).map (p.name, ·) := by
  simp only [bindClass]
  induction c.properties with
  | nil => rfl
  | cons p ps ih => cases h : pt.bindProperty r p <;> simp [h, ih, failure?]

/-- Every property is bound or skipped, once: the native names of the two sides are those of the
class, counted with their repeats. -/
theorem names_bindClass_perm :
    ((pt.bindClass r c).1.map (·.nativeName) ++ (pt.bindClass r c).2.map (·.1)).Perm
      (c.properties.map (·.name)) := by
  rw [bindClass_fst_eq, bindClass_snd_eq]
  refine ((List.mergeSort_perm _ _).map _).append_right _ |>.trans ?_
  induction c.properties with
  | nil => rfl
  | cons p ps ih =>
    cases h : pt.bindProperty r p with
    | ok b =>
      have hname := (fields_of_bindProperty pt r p h).1
      simpa [h, hname, failure?] using ih
    | error k =>
      simpa [h, failure?] using (List.perm_middle.trans (ih.cons p.name))

end PropertyTypes

/-- Binding a class's properties binds or skips each exactly once: the skipped in document order, the
bound sorted by native name, each with the type and package its classification gives. -/
theorem bindClass_partitions_properties (extras : List (String × String)) (r : Resolver)
    (c : GirClass) :
    let pt := PropertyTypes.default.insertAll extras
    let ns := r.naming.case r.naming.space
    let bound := (pt.bindClass r c).1
    let skipped := (pt.bindClass r c).2
    let boundInOrder := successes (c.properties.map (pt.bindProperty r))
    (bound.map (·.nativeName) ++ skipped.map (·.1)).Perm (c.properties.map (·.name)) ∧
    skipped = c.properties.filterMap (fun p => (failure? (pt.bindProperty r p)).map (p.name, ·)) ∧
    bound.Perm boundInOrder ∧
    bound.Pairwise (fun a b => a.nativeName ≤ b.nativeName) ∧
    (∀ name, bound.filter (fun b : PropertyBinding => b.nativeName == name) =
      boundInOrder.filter (fun b : PropertyBinding => b.nativeName == name)) ∧
    (∀ p, (∃ b, pt.bindProperty r p = .ok b) ↔
      (∃ ty x, r.classify p.shape = .scalar ty x) ∨ ∃ ty, r.classify p.shape = .object ty) ∧
    (∀ p ty e, r.classify p.shape = .array ty e →
      pt.bindProperty r p = .error (.unsupportedProperty (Descriptor.array ty e).display)) ∧
    (∀ p k, r.resolveFor p.name p.shape = .error k → pt.bindProperty r p = .error k) ∧
    (∀ p b, pt.bindProperty r p = .ok b →
      b.nativeName = p.name ∧ b.adaName = r.naming.case p.name ++ "_Property" ∧
      b.flags = accessFlags p.readable p.writable ∧ b.doc = p.doc) ∧
    (∀ p ty x suffix, r.classify p.shape = .scalar ty x →
      latestEntry pt.byNative ty.native = some suffix →
      ∃ b, pt.bindProperty r p = .ok b ∧ b.typeName = suffix ∧ b.package = "Glib.Properties") ∧
    (∀ p ty, r.classify p.shape = .object ty →
      ∃ b, pt.bindProperty r p = .ok b ∧ b.typeName = "Object" ∧ b.package = "Glib.Properties") ∧
    (∀ p ty x, r.classify p.shape = .scalar ty x → latestEntry pt.byNative ty.native = none →
      ∃ b, pt.bindProperty r p = .ok b ∧ b.typeName = ty.mapping.param ∧
        b.package = if ty.mapping.param.startsWith (ns ++ "_") then ns ++ ".Enums"
          else "Glib.Properties") ∧
    (∀ p name ct, p.shape = .direct ⟨some name, ct⟩ → r.repository.isEnumeration name = true →
      '.' ∉ name.toList → name ≠ "" → name ≠ "none" → r.table.lookup (some name) ct = none →
      latestEntry pt.byNative name = none →
      ∃ b, pt.bindProperty r p = .ok b ∧ b.typeName = r.naming.typeName name ∧
        b.package = ns ++ ".Enums") := by
  intro pt ns bound skipped boundInOrder
  have hpackage : pt.package = "Glib.Properties" := PropertyTypes.package_insertAll _ _
  have hobject : pt.object = "Object" := PropertyTypes.object_insertAll _ _
  refine ⟨pt.names_bindClass_perm r c, pt.bindClass_snd_eq r c, ?_, ?_, fun name => ?_,
    pt.bindProperty_isOk_iff r, fun p ty e => pt.bindProperty_of_array r p,
    fun p k => pt.bindProperty_of_resolveFor_error r p, fun p b => pt.fields_of_bindProperty r p,
    fun p ty x suffix hc hl => ?_, fun p ty hc => ?_, fun p ty x hc hl => ?_,
    fun p name ct hs henum hdot hne hnone htable hl => ?_⟩
  · simpa only [bound, pt.bindClass_fst_eq r c] using List.mergeSort_perm _ _
  · simpa only [bound, pt.bindClass_fst_eq r c] using pairwise_mergeSort_key PropertyBinding.nativeName _
  · simpa only [bound, pt.bindClass_fst_eq r c] using filter_mergeSort_key PropertyBinding.nativeName _ name
  · refine ⟨_, pt.bindProperty_of_scalar r p hc, ?_⟩
    simp [PropertyTypes.bindingWith, pt.scalarType_of_listed r.naming ty hl, hpackage]
  · exact ⟨_, pt.bindProperty_of_object r p hc, by simp [PropertyTypes.bindingWith, hobject, hpackage]⟩
  · refine ⟨_, pt.bindProperty_of_scalar r p hc, ?_⟩
    simp [PropertyTypes.bindingWith, pt.scalarType_of_unlisted r.naming ty hl, hpackage, ns]
  · -- the resolver's enumeration branch gives the namespace's Ada type, which the rule recognizes
    obtain ⟨x, hc⟩ := PropertyTypes.classify_of_enumeration r henum hne hnone htable
    rw [← hs] at hc
    refine ⟨_, pt.bindProperty_of_scalar r p hc, ?_⟩
    have hunlisted := pt.scalarType_of_unlisted r.naming ⟨name, ct.getD "",
      Mapping.direct (r.naming.typeName name) (some (r.naming.case r.naming.space ++ ".Enums"))⟩ hl
    simp only [PropertyTypes.bindingWith, hunlisted]
    simp [Mapping.direct, PropertyTypes.startsWith_typeName r.naming hdot, ns]

end GirAda.Ada
