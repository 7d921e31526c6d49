import GirAda.Override.Registry
import GirAda.Proofs.Tree

/-!
# Reading the override registry

`Registry.ofElement` walks the `<package>` children of a `<GIR>` root and, inside each, its
`<type>` and then its `<method>` children, filing every entry under its `id`. The registry keeps
each list latest entry first, so a lookup answers from the last entry for its key in document
order: a later `<method>` for an identifier replaces an earlier one wholesale, wherever the two
stand. Inside one method entry the defaults are read in order and the first one for a parameter
wins.

Reading fails on a root other than an unqualified `<GIR>`, and otherwise exactly when some
package, type or method carries no `id` or some parameter that gives a default carries no
`name`; nothing else can fail.

Main statement: `registry_answers_from_last_entries`.
-/

namespace GirAda.Override

open GirAda.Xml GirAda.Text

/-! ## What the document says -/

/-- The `<package>` children of the root. -/
def packageNodes (root : Element) : List Element := root.findAll (XName.plain "package")

/-- The `<type>` children of every package, in document order. -/
def typeNodes (root : Element) : List Element :=
  (packageNodes root).flatMap (·.findAll (XName.plain "type"))

/-- The `<method>` children of every package, in document order. -/
def methodNodes (root : Element) : List Element :=
  (packageNodes root).flatMap (·.findAll (XName.plain "method"))

/-- The last of some elements whose `id` is `id`. -/
def lastWithId (es : List Element) (id : String) : Option Element :=
  (es.filter fun e => e.get? (XName.plain "id") == some id).getLast?

/-- Whether an element carries an `id`. -/
def HasId (e : Element) : Prop := (e.get? (XName.plain "id")).isSome

/-- Every `<parameter>` of a method that gives a default carries a name. -/
def DefaultsNamed (m : Element) : Prop :=
  ∀ q ∈ m.findAll (XName.plain "parameter"),
    (q.get? (XName.plain "default")).isSome → (q.get? (XName.plain "name")).isSome

/-- A `<package>` whose entries carry what reading them requires: an `id` on the package, on its
types and on its methods, and a name on every parameter that gives a default. -/
structure PackageComplete (p : Element) : Prop where
  id : HasId p
  types : ∀ t ∈ p.findAll (XName.plain "type"), HasId t
  methods : ∀ m ∈ p.findAll (XName.plain "method"), HasId m ∧ DefaultsNamed m

/-- A document whose every package is complete. -/
def Complete (root : Element) : Prop := ∀ p ∈ packageNodes root, PackageComplete p

/-- The answers the registry read from `root` gives: each lookup answers from the last entry for
its key in document order, and a default from the first parameter of that entry that gives one
under the name asked for. -/
structure Answers (r : Registry) (root : Element) : Prop where
  bind : ∀ id, r.bind id =
    (((lastWithId (methodNodes root) id).bind (·.get? (XName.plain "bind"))).map readFlag).getD true
  adaName : ∀ id, r.adaName id = (lastWithId (methodNodes root) id).bind (·.get? (XName.plain "ada"))
  defaultFor : ∀ id param, r.defaultFor id param =
    (lastWithId (methodNodes root) id).bind fun m =>
      ((m.findAll (XName.plain "parameter")).find? fun q =>
        q.get? (XName.plain "name") == some param && (q.get? (XName.plain "default")).isSome).bind
        (·.get? (XName.plain "default"))
  mergeInto : ∀ pkg, r.mergeInto pkg =
    (lastWithId (packageNodes root) pkg).bind (·.get? (XName.plain "into"))
  packageDoc : ∀ pkg, r.packageDoc pkg =
    (lastWithId (packageNodes root) pkg).bind (·.findText? (XName.plain "doc"))
  typeKind : ∀ t, r.typeKind t = .subtype ↔
    ((lastWithId (typeNodes root) t).bind (·.get? (XName.plain "subtype"))).map readFlag = some true

/-! ## Entries -/

/-- The default a `<parameter>` gives, under its name. -/
def defaultEntry (q : Element) : Option (String × String) :=
  (q.get? (XName.plain "default")).bind fun d => (q.get? (XName.plain "name")).map (·, d)

/-- What a `<method>` element says. -/
def methodOf (m : Element) : MethodOverride where
  adaName := m.get? (XName.plain "ada")
  bind := (m.get? (XName.plain "bind")).map readFlag
  defaults := (m.findAll (XName.plain "parameter")).filterMap defaultEntry

/-- How a `<type>` element says its type is declared. -/
def typeKindOf (t : Element) : TypeKind :=
  if ((t.get? (XName.plain "subtype")).map readFlag).getD false then .subtype else .newType

/-- What a `<package>` element says. -/
def packageOf (p : Element) : PackageOverride :=
  { into := p.get? (XName.plain "into"), doc := p.findText? (XName.plain "doc") }

/-- An element's entry under its `id`. -/
def entryOf {α : Type} (v : Element → α) (e : Element) : Option (String × α) :=
  (e.get? (XName.plain "id")).map (·, v e)

/-- The registry of the entries of some packages, latest first. -/
def Registry.ofEntries (ps : List Element) : Registry where
  methods := ((ps.flatMap (·.findAll (XName.plain "method"))).filterMap (entryOf methodOf)).reverse
  packages := (ps.filterMap (entryOf packageOf)).reverse
  types := ((ps.flatMap (·.findAll (XName.plain "type"))).filterMap (entryOf typeKindOf)).reverse

/-- A list kept latest first answers from the last entry of the list it reverses. -/
theorem latest_reverse {α : Type} (es : List (String × α)) (k : String) :
    latest es.reverse k = ((es.filter (·.1 == k)).getLast?).map Prod.snd := by
  rw [latest, ← List.head?_filter, List.filter_reverse, List.head?_reverse]

/-- Filing elements under their `id` and keeping the entries under `k` keeps the elements whose
`id` is `k`. -/
theorem filter_entries {α : Type} (v : Element → α) (es : List Element) (k : String) :
    (es.filterMap (entryOf v)).filter (·.1 == k) =
      (es.filter fun e => e.get? (XName.plain "id") == some k).map fun e => (k, v e) := by
  induction es with
  | nil => rfl
  | cons e es ih =>
    cases h : e.get? (XName.plain "id") with
    | none => simp [entryOf, h, ih]
    | some i => by_cases hi : i = k <;> simp [entryOf, h, hi, ih]

/-- The entries of some elements answer a key from the last element with that `id`. -/
theorem latest_entries {α : Type} (v : Element → α) (es : List Element) (k : String) :
    latest (es.filterMap (entryOf v)).reverse k = (lastWithId es k).map v := by
  rw [latest_reverse, filter_entries, List.getLast?_map, lastWithId, Option.map_map]
  rfl

/-- The named defaults of some parameters answer a name from the first parameter of that name
that gives a default. -/
theorem find?_defaults (qs : List Element) (param : String) :
    ((qs.filterMap defaultEntry).find? (·.1 == param)).map Prod.snd =
      (qs.find? fun q => q.get? (XName.plain "name") == some param &&
        (q.get? (XName.plain "default")).isSome).bind (·.get? (XName.plain "default")) := by
  induction qs with
  | nil => rfl
  | cons q qs ih =>
    cases hd : q.get? (XName.plain "default") with
    | none =>
      have he : defaultEntry q = none := by simp [defaultEntry, hd]
      rw [List.filterMap_cons_none he, ih, List.find?_cons]
      simp [hd]
    | some d =>
      cases hn : q.get? (XName.plain "name") with
      | none =>
        have he : defaultEntry q = none := by simp [defaultEntry, hd, hn]
        rw [List.filterMap_cons_none he, ih, List.find?_cons]
        simp [hn]
      | some n =>
        have he : defaultEntry q = some (n, d) := by simp [defaultEntry, hd, hn]
        rw [List.filterMap_cons_some he, List.find?_cons, List.find?_cons]
        by_cases hp : n = param
        · simp [hd, hn, hp]
        · have hkey : ((n, d).1 == param) = false := by simpa using hp
          have hq : (q.get? (XName.plain "name") == some param &&
              (q.get? (XName.plain "default")).isSome) = false := by simp [hn, hp]
          rw [hkey, hq]
          exact ih

/-! ## Reading one element -/

theorem requiredAttr_eq_ok_iff {e : Element} {k v : String} :
    requiredAttr e k = .ok v ↔ e.get? (XName.plain k) = some v := by
  unfold requiredAttr
  split <;> simp_all

theorem requiredAttr_eq_error {e : Element} {k : String} {err : ParseError}
    (h : requiredAttr e k = .error err) : err = .missingAttribute e.localName k := by
  unfold requiredAttr at h
  split at h <;> cases h
  rfl

/-- The failures of reading that an entry's missing attribute causes. -/
def IsMissing (err : ParseError) : Prop := ∃ element key, err = .missingAttribute element key

theorem isMissing_of_requiredAttr {e : Element} {k : String} {err : ParseError}
    (h : requiredAttr e k = .error err) : IsMissing err :=
  ⟨_, _, requiredAttr_eq_error h⟩

/-- Reading defaults succeeds when every parameter that gives one is named, with the named
defaults in order. -/
theorem readDefaults_eq_ok_iff {qs : List Element} {ds : List (String × String)} :
    readDefaults qs = .ok ds ↔
      (∀ q ∈ qs, (q.get? (XName.plain "default")).isSome → (q.get? (XName.plain "name")).isSome) ∧
        ds = qs.filterMap defaultEntry := by
  induction qs generalizing ds with
  | nil =>
    constructor
    · intro h
      cases h
      simp
    · rintro ⟨-, rfl⟩
      rfl
  | cons q qs ih =>
    cases hd : q.get? (XName.plain "default") with
    | none =>
      have he : defaultEntry q = none := by simp [defaultEntry, hd]
      simp only [readDefaults, hd, ih, List.filterMap_cons_none he, List.forall_mem_cons,
        Option.isSome_none, Bool.false_eq_true, false_implies, true_and]
    | some d =>
      cases hn : q.get? (XName.plain "name") with
      | none =>
        have hq : readDefaults (q :: qs) = .error (.missingAttribute q.localName "name") := by
          simp only [readDefaults, hd, requiredAttr, hn, error_bind]
        simp [hq, hn, hd]
      | some n =>
        have he : defaultEntry q = some (n, d) := by simp [defaultEntry, hd, hn]
        simp only [readDefaults, hd, requiredAttr, hn, ok_bind, bind_eq_ok_iff, ih,
          List.filterMap_cons_some he, List.forall_mem_cons, Option.isSome_some, implies_true,
          true_and]
        constructor
        · rintro ⟨rest, ⟨hrest, rfl⟩, h⟩
          cases h
          exact ⟨hrest, rfl⟩
        · rintro ⟨hrest, rfl⟩
          exact ⟨_, ⟨hrest, rfl⟩, rfl⟩

theorem readDefaults_error {qs : List Element} {err : ParseError}
    (h : readDefaults qs = .error err) : IsMissing err := by
  induction qs with
  | nil => cases h
  | cons q qs ih =>
    unfold readDefaults at h
    split at h
    · exact ih h
    · rcases bind_eq_error_iff.1 h with h | ⟨_, _, h⟩
      · exact isMissing_of_requiredAttr h
      · rcases bind_eq_error_iff.1 h with h | ⟨_, _, h⟩
        · exact ih h
        · cases h

theorem MethodOverride.ofElement_eq_ok_iff {m : Element} {mo : MethodOverride} :
    MethodOverride.ofElement m = .ok mo ↔ DefaultsNamed m ∧ mo = methodOf m := by
  unfold MethodOverride.ofElement
  rw [bind_eq_ok_iff]
  constructor
  · rintro ⟨ds, hds, h⟩
    obtain ⟨hnamed, rfl⟩ := readDefaults_eq_ok_iff.1 hds
    cases h
    exact ⟨hnamed, rfl⟩
  · rintro ⟨hnamed, rfl⟩
    exact ⟨_, readDefaults_eq_ok_iff.2 ⟨hnamed, rfl⟩, rfl⟩

theorem addTypeElement_eq_ok_iff {r r' : Registry} {t : Element} :
    r.addTypeElement t = .ok r' ↔
      ∃ i, t.get? (XName.plain "id") = some i ∧ r' = r.addType i (typeKindOf t) := by
  simp only [Registry.addTypeElement, bind_eq_ok_iff, requiredAttr_eq_ok_iff]
  constructor
  · rintro ⟨i, hi, h⟩
    cases h
    exact ⟨i, hi, rfl⟩
  · rintro ⟨i, hi, rfl⟩
    exact ⟨i, hi, rfl⟩

theorem addMethodElement_eq_ok_iff {r r' : Registry} {m : Element} :
    r.addMethodElement m = .ok r' ↔
      ∃ i, m.get? (XName.plain "id") = some i ∧ DefaultsNamed m ∧ r' = r.addMethod i (methodOf m) := by
  simp only [Registry.addMethodElement, bind_eq_ok_iff, requiredAttr_eq_ok_iff,
    MethodOverride.ofElement_eq_ok_iff]
  constructor
  · rintro ⟨i, hi, mo, ⟨hnamed, rfl⟩, h⟩
    cases h
    exact ⟨i, hi, hnamed, rfl⟩
  · rintro ⟨i, hi, hnamed, rfl⟩
    exact ⟨i, hi, _, ⟨hnamed, rfl⟩, rfl⟩

theorem addTypeElement_error {r : Registry} {t : Element} {err : ParseError}
    (h : r.addTypeElement t = .error err) : IsMissing err := by
  rcases bind_eq_error_iff.1 h with h | ⟨_, _, h⟩
  · exact isMissing_of_requiredAttr h
  · cases h

theorem addMethodElement_error {r : Registry} {m : Element} {err : ParseError}
    (h : r.addMethodElement m = .error err) : IsMissing err := by
  rcases bind_eq_error_iff.1 h with h | ⟨_, _, h⟩
  · exact isMissing_of_requiredAttr h
  · rcases bind_eq_error_iff.1 h with h | ⟨_, _, h⟩
    · rcases bind_eq_error_iff.1 h with h | ⟨_, _, h⟩
      · exact readDefaults_error h
      · cases h
    · cases h

/-! ## Reading a package -/

/-- Reading types files each under its `id`, after the types already there. -/
theorem foldlM_addTypeElement {ts : List Element} {r r' : Registry}
    (h : ts.foldlM Registry.addTypeElement r = .ok r') :
    r' = { r with types := (ts.filterMap (entryOf typeKindOf)).reverse ++ r.types } := by
  have := foldlM_invariant
    (fun pre r' => r' = { r with types := (pre.filterMap (entryOf typeKindOf)).reverse ++ r.types })
    (fun pre t b b' hb hstep => by
      obtain ⟨i, hi, rfl⟩ := addTypeElement_eq_ok_iff.1 hstep
      simp [hb, Registry.addType, entryOf, hi])
    ts (p := []) rfl h
  simpa using this

/-- Reading methods files each under its `id`, after the methods already there. -/
theorem foldlM_addMethodElement {ms : List Element} {r r' : Registry}
    (h : ms.foldlM Registry.addMethodElement r = .ok r') :
    r' = { r with methods := (ms.filterMap (entryOf methodOf)).reverse ++ r.methods } := by
  have := foldlM_invariant
    (fun pre r' => r' = { r with methods := (pre.filterMap (entryOf methodOf)).reverse ++ r.methods })
    (fun pre m b b' hb hstep => by
      obtain ⟨i, hi, -, rfl⟩ := addMethodElement_eq_ok_iff.1 hstep
      simp [hb, Registry.addMethod, entryOf, hi])
    ms (p := []) rfl h
  simpa using this

/-- Reading a package files the package, its types and its methods, each after what is there. -/
theorem addElement_eq_ok {r r' : Registry} {p : Element} (h : r.addElement p = .ok r') :
    r' = ⟨((p.findAll (XName.plain "method")).filterMap (entryOf methodOf)).reverse ++ r.methods,
      (entryOf packageOf p).toList ++ r.packages,
      ((p.findAll (XName.plain "type")).filterMap (entryOf typeKindOf)).reverse ++ r.types⟩ := by
  simp only [Registry.addElement, bind_eq_ok_iff, requiredAttr_eq_ok_iff] at h
  obtain ⟨i, hi, r₁, h₁, h₂⟩ := h
  rw [foldlM_addMethodElement h₂, foldlM_addTypeElement h₁]
  simp [Registry.addPackage, entryOf, hi, packageOf]

theorem addElement_isOk_iff (r : Registry) (p : Element) :
    (∃ r', r.addElement p = .ok r') ↔ PackageComplete p := by
  have htypes := foldlM_isOk_iff (f := Registry.addTypeElement) (P := HasId) fun b t => by
    simp [addTypeElement_eq_ok_iff, HasId, Option.isSome_iff_exists]
  have hmethods := foldlM_isOk_iff (f := Registry.addMethodElement)
    (P := fun m => HasId m ∧ DefaultsNamed m) fun b m => by
      simp only [addMethodElement_eq_ok_iff, HasId, Option.isSome_iff_exists]
      grind
  simp only [Registry.addElement, bind_eq_ok_iff, requiredAttr_eq_ok_iff]
  constructor
  · rintro ⟨r', i, hi, r₁, h₁, h₂⟩
    exact ⟨by simp [HasId, hi], (htypes _ _).1 ⟨r₁, h₁⟩, (hmethods _ _).1 ⟨r', h₂⟩⟩
  · rintro ⟨hid, ht, hm⟩
    obtain ⟨i, hi⟩ := Option.isSome_iff_exists.1 hid
    obtain ⟨r₁, h₁⟩ := (htypes _ _).2 ht
    obtain ⟨r', h₂⟩ := (hmethods _ _).2 hm
    exact ⟨r', i, hi, r₁, h₁, h₂⟩

theorem addElement_error {r : Registry} {p : Element} {err : ParseError}
    (h : r.addElement p = .error err) : IsMissing err := by
  rcases bind_eq_error_iff.1 h with h | ⟨_, _, h⟩
  · exact isMissing_of_requiredAttr h
  · rcases bind_eq_error_iff.1 h with h | ⟨_, _, h⟩
    · exact foldlM_error_of (fun _ _ _ => addTypeElement_error) h
    · exact foldlM_error_of (fun _ _ _ => addMethodElement_error) h

/-! ## Reading the document -/

theorem Registry.ofElement_eq (root : Element) :
    Registry.ofElement root =
      if root.is (XName.plain "GIR") then (packageNodes root).foldlM Registry.addElement Registry.empty
      else .error (.unexpectedRoot "GIR" root.localName) := by
  unfold Registry.ofElement
  cases root.is (XName.plain "GIR") <;> rfl

/-- A registry read from a `<GIR>` root holds the entries of its packages. -/
theorem Registry.ofElement_eq_ok {root : Element} {r : Registry} (h : Registry.ofElement root = .ok r) :
    r = Registry.ofEntries (packageNodes root) := by
  rw [Registry.ofElement_eq] at h
  cases hgir : root.is (XName.plain "GIR")
  · simp [hgir] at h
  · rw [hgir, if_pos rfl] at h
    -- each package read files its entries after those of the packages before it
    have := foldlM_invariant (fun pre r => r = Registry.ofEntries pre)
      (fun pre p b b' hb hstep => by
        rw [addElement_eq_ok hstep, hb]
        simp only [Registry.ofEntries, List.flatMap_append, List.filterMap_append,
          List.reverse_append, List.flatMap_singleton, Registry.mk.injEq, and_true, true_and]
        cases he : entryOf packageOf p <;> simp [he])
      (packageNodes root) (p := []) rfl h
    simpa using this

theorem Registry.ofElement_isOk_iff (root : Element) :
    (∃ r, Registry.ofElement root = .ok r) ↔ root.is (XName.plain "GIR") = true ∧ Complete root := by
  rw [Registry.ofElement_eq]
  cases hgir : root.is (XName.plain "GIR")
  · simp
  · rw [if_pos rfl]
    exact (foldlM_isOk_iff addElement_isOk_iff _ _).trans (and_iff_right rfl).symm

theorem Registry.ofElement_error {root : Element} {err : ParseError}
    (h : Registry.ofElement root = .error err) :
    (root.is (XName.plain "GIR") = false ∧ err = .unexpectedRoot "GIR" root.localName) ∨
      (root.is (XName.plain "GIR") = true ∧ IsMissing err) := by
  rw [Registry.ofElement_eq] at h
  cases hgir : root.is (XName.plain "GIR")
  · rw [hgir] at h
    cases h
    exact .inl ⟨rfl, rfl⟩
  · rw [hgir, if_pos rfl] at h
    exact .inr ⟨rfl, foldlM_error_of (fun _ _ _ => addElement_error) h⟩

theorem latest_methods (root : Element) (id : String) :
    latest (Registry.ofEntries (packageNodes root)).methods id =
      (lastWithId (methodNodes root) id).map methodOf :=
  latest_entries methodOf (methodNodes root) id

theorem latest_packages (root : Element) (pkg : String) :
    latest (Registry.ofEntries (packageNodes root)).packages pkg =
      (lastWithId (packageNodes root) pkg).map packageOf :=
  latest_entries packageOf (packageNodes root) pkg

theorem latest_types (root : Element) (t : String) :
    latest (Registry.ofEntries (packageNodes root)).types t =
      (lastWithId (typeNodes root) t).map typeKindOf :=
  latest_entries typeKindOf (typeNodes root) t

/-- The registry of the entries of a document answers as the document says. -/
theorem answers_ofEntries (root : Element) : Answers (Registry.ofEntries (packageNodes root)) root where
  bind id := by
    rw [Registry.bind, latest_methods]
    cases lastWithId (methodNodes root) id <;> rfl
  adaName id := by
    rw [Registry.adaName, latest_methods]
    cases lastWithId (methodNodes root) id <;> rfl
  defaultFor id param := by
    rw [Registry.defaultFor, latest_methods]
    cases lastWithId (methodNodes root) id with
    | none => rfl
    | some m => exact find?_defaults _ param
  mergeInto pkg := by
    rw [Registry.mergeInto, latest_packages]
    cases lastWithId (packageNodes root) pkg <;> rfl
  packageDoc pkg := by
    rw [Registry.packageDoc, latest_packages]
    cases lastWithId (packageNodes root) pkg <;> rfl
  typeKind t := by
    rw [Registry.typeKind, latest_types]
    cases lastWithId (typeNodes root) t with
    | none => simp
    | some e =>
      cases hs : e.get? (XName.plain "subtype") with
      | none => simp [typeKindOf, hs]
      | some v => cases hv : readFlag v <;> simp [typeKindOf, hs, hv]

/-- A flag is false when, trimmed and in ASCII lower case, it reads `false`, `0` or `no`. -/
theorem readFlag_eq_false_iff (v : String) :
    readFlag v = false ↔ asciiLower (trim v) ∈ ["false", "0", "no"] := by
  simp only [readFlag, Bool.not_eq_eq_eq_not, Bool.not_false, Bool.or_eq_true, beq_iff_eq,
    List.mem_cons, List.not_mem_nil, or_false, or_assoc]

/-- Reading the registry from a tree fails on a root other than an unqualified `<GIR>`, and
otherwise on a missing attribute exactly when some entry lacks one; what it reads answers as the
document says. -/
theorem Registry.ofElement_reads (root : Element) :
    ((∃ found, Registry.ofElement root = .error (.unexpectedRoot "GIR" found)) ↔
        root.is (XName.plain "GIR") = false) ∧
      ((∃ element key, Registry.ofElement root = .error (.missingAttribute element key)) ↔
        root.is (XName.plain "GIR") = true ∧ ¬ Complete root) ∧
      ∀ r, Registry.ofElement root = .ok r → Answers r root := by
  refine ⟨⟨?_, ?_⟩, ⟨?_, ?_⟩, ?_⟩
  · rintro ⟨found, h⟩
    rcases Registry.ofElement_error h with ⟨hgir, -⟩ | ⟨-, _, _, hm⟩
    · exact hgir
    · cases hm
  · intro hgir
    rw [Registry.ofElement_eq, hgir]
    exact ⟨_, rfl⟩
  · rintro ⟨element, key, h⟩
    rcases Registry.ofElement_error h with ⟨-, hm⟩ | ⟨hgir, -⟩
    · cases hm
    · refine ⟨hgir, fun hc => ?_⟩
      obtain ⟨r, hr⟩ := (Registry.ofElement_isOk_iff root).2 ⟨hgir, hc⟩
      rw [hr] at h
      cases h
  · rintro ⟨hgir, hc⟩
    cases h : Registry.ofElement root with
    | ok r => exact absurd ((Registry.ofElement_isOk_iff root).1 ⟨r, h⟩).2 hc
    | error err =>
      rcases Registry.ofElement_error h with ⟨hgir', -⟩ | ⟨-, element, key, rfl⟩
      · simp [hgir] at hgir'
      · exact ⟨element, key, rfl⟩
  · intro r h
    rw [Registry.ofElement_eq_ok h]
    exact answers_ofEntries root

/-- The markup reader never fails for want of a `<GIR>` root or of an attribute: those failures
are the registry's own. -/
theorem parse_error_of_markup {s : String} {e : ParseError} (h : Element.parse s = .error e) :
    (∀ found, e ≠ .unexpectedRoot "GIR" found) ∧ ¬ IsMissing e := by
  rcases parse_error_cases h with htoken | ⟨n, rfl⟩ | rfl
  · cases e <;> simp_all [ParseError.OfToken, IsMissing]
  all_goals simp [IsMissing]

/-- Reading an override document: apart from faults of the markup, it fails on a root other than
an unqualified `<GIR>`, and on a missing `id` or parameter name exactly when some entry lacks
one; what it reads answers every lookup from the last entry for its key in document order. -/
theorem registry_answers_from_last_entries (s : String) :
    ((∃ found, Registry.parse s = .error (.unexpectedRoot "GIR" found)) ↔
        ∃ root, Element.parse s = .ok root ∧ root.is (XName.plain "GIR") = false) ∧
      ((∃ element key, Registry.parse s = .error (.missingAttribute element key)) ↔
        ∃ root, Element.parse s = .ok root ∧ root.is (XName.plain "GIR") = true ∧ ¬ Complete root) ∧
      (∀ r, Registry.parse s = .ok r → ∃ root, Element.parse s = .ok root ∧ Answers r root) ∧
      ∀ v, readFlag v = false ↔ asciiLower (trim v) ∈ ["false", "0", "no"] := by
  cases hxml : Element.parse s with
  | error e =>
    -- a fault of the markup is none of the registry's failures, and reads nothing
    obtain ⟨hroot, hmissing⟩ := parse_error_of_markup hxml
    have hparse : Registry.parse s = .error e := by rw [Registry.parse, hxml, error_bind]
    simp only [hparse, Except.error.injEq, reduceCtorEq, false_and, exists_false, iff_false,
      not_exists, false_implies, implies_true, true_and]
    exact ⟨hroot, fun element key h => hmissing ⟨element, key, h⟩, readFlag_eq_false_iff⟩
  | ok root =>
    obtain ⟨hroot, hmissing, hanswers⟩ := Registry.ofElement_reads root
    have hparse : Registry.parse s = Registry.ofElement root := by
      rw [Registry.parse, hxml, ok_bind]
    simp only [hparse, Except.ok.injEq, exists_eq_left']
    exact ⟨hroot, hmissing, hanswers, readFlag_eq_false_iff⟩

/-- A later entry for a method replaces an earlier one wholesale: the first entry disables the
method and gives a default, the second only renames it, so the method is bound again and keeps no
default. -/
example :
    let method : String → List (XName × String) → List Element → Element := fun pkg attrs params =>
      ⟨XName.plain "package", [(XName.plain "id", pkg)],
        [⟨XName.plain "method", (XName.plain "id", "gtk_frame_new") :: attrs, params, ""⟩], ""⟩
    let label : Element :=
      ⟨XName.plain "parameter", [(XName.plain "name", "label"), (XName.plain "default", "x")], [], ""⟩
    let root : Element := ⟨XName.plain "GIR", [],
      [method "Gtk.Frame" [(XName.plain "bind", " No ")] [label],
       method "Gtk.Bin" [(XName.plain "ada", "Gtk_New_Framed")] []], ""⟩
    (Registry.ofElement root).toOption.map (fun r =>
      (r.bind "gtk_frame_new", r.adaName "gtk_frame_new", r.defaultFor "gtk_frame_new" "label")) =
      some (true, some "Gtk_New_Framed", none) := by
  decide

end GirAda.Override
