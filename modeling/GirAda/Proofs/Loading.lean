import GirAda.Proofs.Index
import GirAda.Proofs.Steps

/-!
# Loading a repository from its tree

`Repository.ofElement` reads five levels of elements: the namespace, its classes, their
constructors, methods, properties and signals, and the parameters of each callable. Every element
it reads must carry a `name`, and the first one that has none, in reading order, decides the
failure. `namespaceCarriers` lists those elements in that order, so that loading succeeds exactly
when each of them is named, and otherwise fails on the first that is not. A root other than the
core `<repository>` and a repository without a core `<namespace>` are refused before that.

The shape of a parameter, property or return value is read from its children by priority: a
`<type>`, then an `<array>`, then `<varargs>`, whatever order the children come in.

Main statement: `loading_reads_every_level`.
-/

namespace GirAda.Gir

open GirAda.Xml

/-! ## Readings that fail on a missing name -/

section Readings

variable {α β ε : Type}

/-- The failure of reading elements that must each carry a `name`: the missing name of the first
of them, in reading order, that has none. -/
def missingName (l : List Element) : Option ParseError :=
  (l.find? fun x => (x.get? (XName.plain "name")).isNone).map
    fun x => .missingAttribute x.localName "name"

theorem missingName_append (l l' : List Element) :
    missingName (l ++ l') = (missingName l).or (missingName l') := by
  simp only [missingName, List.find?_append]
  cases l.find? (fun x => (x.get? (XName.plain "name")).isNone) <;> rfl

theorem missingName_eq_none_iff {l : List Element} :
    missingName l = none ↔ ∀ x ∈ l, (x.get? (XName.plain "name")).isSome := by
  simp [missingName, List.find?_eq_none, Option.isSome_iff_ne_none]

/-- A reading fails exactly when one of `l` carries no `name`, and then on the first such. -/
def FailsOnMissing (x : Except ParseError α) (l : List Element) : Prop :=
  ∀ e, x = .error e ↔ missingName l = some e

namespace FailsOnMissing

variable {x : Except ParseError α} {l : List Element}

/-- Such a reading succeeds exactly when all of `l` are named. -/
theorem ok_iff (h : FailsOnMissing x l) : (∃ a, x = .ok a) ↔ missingName l = none := by
  cases x with
  | error e => simp [(h e).1 rfl]
  | ok a =>
    refine ⟨fun _ => ?_, fun _ => ⟨a, rfl⟩⟩
    cases hm : missingName l with
    | none => rfl
    | some e => cases (h e).2 hm

theorem bind {f : α → Except ParseError β} {l' : List Element} (hx : FailsOnMissing x l)
    (hf : ∀ a, x = .ok a → FailsOnMissing (f a) l') : FailsOnMissing (x >>= f) (l ++ l') := by
  intro e
  rw [missingName_append]
  cases x with
  | error e₀ =>
    have h₀ := (hx e₀).1 rfl
    simp [bind, Except.bind, h₀]
  | ok a =>
    have h₀ : missingName l = none := hx.ok_iff.1 ⟨a, rfl⟩
    simpa [h₀, bind, Except.bind] using hf a rfl e

theorem of_eq {l' : List Element} (h : FailsOnMissing x l) (hl : l = l') : FailsOnMissing x l' :=
  hl ▸ h

theorem pure (a : α) : FailsOnMissing (Pure.pure a : Except ParseError α) [] := by
  intro e
  simp [Pure.pure, Except.pure, missingName]

theorem map {f : α → β} (h : FailsOnMissing x l) : FailsOnMissing (x.map f) l := by
  intro e
  cases x <;> simp [Except.map, ← h e]

theorem mapM {f : β → Except ParseError α} {carriers : β → List Element} (bs : List β)
    (h : ∀ b ∈ bs, FailsOnMissing (f b) (carriers b)) :
    FailsOnMissing (bs.mapM f) (bs.flatMap carriers) := by
  induction bs with
  | nil => exact FailsOnMissing.pure []
  | cons b bs ih =>
    rw [List.mapM_cons, List.flatMap_cons, ← List.append_nil (bs.flatMap carriers)]
    refine (h b List.mem_cons_self).bind fun _ _ => ?_
    exact (ih fun b' hb' => h b' (List.mem_cons_of_mem b hb')).bind fun _ _ => pure _

end FailsOnMissing

/-- A required `name` is missing exactly when the element has none. -/
theorem failsOnMissing_required (e : Element) :
    FailsOnMissing (required e (XName.plain "name")) [e] := by
  intro err
  have hl : (XName.plain "name").localPart = "name" := rfl
  cases h : e.get? (XName.plain "name") <;> simp [required, missingName, h, hl, eq_comm]

end Readings

/-! ## The elements that must be named -/

/-- The `<parameter>` children of a callable's first `<parameters>` child. -/
def parameterNodes (node : Element) : List Element :=
  match node.find? (core "parameters") with
  | some ps => ps.findAll (core "parameter")
  | none => []

/-- The elements of a callable that must carry a name, in reading order: the callable, then its
parameters. -/
def callableCarriers (node : Element) : List Element := node :: parameterNodes node

/-- Those of a class: the class, then its constructors, methods, properties and signals. -/
def classCarriers (node : Element) : List Element :=
  node :: ((node.findAll (core "constructor")).flatMap callableCarriers ++
    (node.findAll (core "method")).flatMap callableCarriers ++ node.findAll (core "property") ++
    (node.findAll signalName).flatMap callableCarriers)

/-- Those of a namespace: the namespace, then its classes. -/
def namespaceCarriers (ns : Element) : List Element :=
  ns :: (ns.findAll (core "class")).flatMap classCarriers

theorem failsOnMissing_parameter (p : Element) : FailsOnMissing (Parameter.ofElement p) [p] := by
  unfold Parameter.ofElement
  rw [← List.append_nil [p]]
  exact (failsOnMissing_required p).bind fun _ _ => .pure _

theorem failsOnMissing_property (p : Element) : FailsOnMissing (Property.ofElement p) [p] := by
  unfold Property.ofElement
  rw [← List.append_nil [p]]
  exact (failsOnMissing_required p).bind fun _ _ => .pure _

/-- Parameters, each named by itself. -/
theorem failsOnMissing_parameters (ps : List Element) :
    FailsOnMissing (ps.mapM Parameter.ofElement) ps := by
  simpa using FailsOnMissing.mapM ps fun p _ => failsOnMissing_parameter p

theorem failsOnMissing_callable (k : CallableKind) (node : Element) :
    FailsOnMissing (Callable.ofElement k node) (callableCarriers node) := by
  unfold Callable.ofElement callableCarriers parameterNodes
  cases node.find? (core "parameters") with
  | some ps =>
    refine ((failsOnMissing_required node).bind fun _ _ =>
      (failsOnMissing_parameters _).bind fun _ _ => .pure _).of_eq (by simp)
  | none =>
    refine ((failsOnMissing_required node).bind fun _ _ =>
      (FailsOnMissing.pure _).bind fun _ _ => .pure _).of_eq (by simp)

theorem failsOnMissing_class (node : Element) :
    FailsOnMissing (GirClass.ofElement node) (classCarriers node) := by
  unfold GirClass.ofElement classCarriers
  refine ((failsOnMissing_required node).bind fun _ _ =>
    (FailsOnMissing.mapM _ fun x _ => failsOnMissing_callable .constructor x).bind fun _ _ =>
    (FailsOnMissing.mapM _ fun x _ => failsOnMissing_callable .method x).bind fun _ _ =>
    (FailsOnMissing.mapM _ fun x _ => failsOnMissing_property x).bind fun _ _ =>
    (FailsOnMissing.mapM _ fun x _ => failsOnMissing_callable .signal x).bind fun _ _ =>
    .pure _).of_eq (by simp)

/-! ## What a successful reading holds -/

/-- A node read as something of a name and a type shape: the node's `name`, and the shape of the
type its children give. -/
def NamedShape (node : Element) (name : String) (shape : Shape) : Prop :=
  node.get? (XName.plain "name") = some name ∧ shape = Shape.ofElement node

/-- A callable read from its element: of the given kind and the element's `name`, with one
parameter per `<parameter>` of its first `<parameters>` child, in order, and the return value
shaped by its `<return-value>` child. -/
def ReadsCallable (k : CallableKind) (node : Element) (c : Callable) : Prop :=
  c.kind = k ∧ node.get? (XName.plain "name") = some c.name ∧
    List.Forall₂ (fun p q => NamedShape p q.name q.shape) (parameterNodes node) c.parameters ∧
    c.returnValue = (node.find? (core "return-value")).map Shape.ofElement

/-- A class read from its element: the element's `name`, and one constructor, method, property
and signal per child of that kind, in document order. -/
def ReadsClass (node : Element) (c : GirClass) : Prop :=
  node.get? (XName.plain "name") = some c.name ∧
    List.Forall₂ (ReadsCallable .constructor) (node.findAll (core "constructor")) c.constructors ∧
    List.Forall₂ (ReadsCallable .method) (node.findAll (core "method")) c.methods ∧
    List.Forall₂ (fun p q => NamedShape p q.name q.shape) (node.findAll (core "property"))
      c.properties ∧
    List.Forall₂ (ReadsCallable .signal) (node.findAll signalName) c.signals

theorem get?_of_required {e : Element} {v : String} (h : required e (XName.plain "name") = .ok v) :
    e.get? (XName.plain "name") = some v := by
  unfold required at h
  split at h
  · next v' hv => cases h; exact hv
  · cases h

theorem namedShape_of_parameter {p : Element} {q : Parameter} (h : Parameter.ofElement p = .ok q) :
    NamedShape p q.name q.shape := by
  obtain ⟨name, hname, hq⟩ := bind_eq_ok_iff.1 h
  cases hq
  exact ⟨get?_of_required hname, rfl⟩

theorem namedShape_of_property {p : Element} {q : Property} (h : Property.ofElement p = .ok q) :
    NamedShape p q.name q.shape := by
  obtain ⟨name, hname, hq⟩ := bind_eq_ok_iff.1 h
  cases hq
  exact ⟨get?_of_required hname, rfl⟩

/-- Members read by a traversal are read one per node, in order. -/
theorem forall₂_of_mapM {β : Type} {f : Element → Except ParseError β} {R : Element → β → Prop}
    (hf : ∀ x b, f x = .ok b → R x b) {xs : List Element} {bs : List β}
    (h : xs.mapM f = .ok bs) : List.Forall₂ R xs bs :=
  (mapM_eq_ok_iff.1 h).imp fun {x b} => hf x b

theorem readsCallable_of_ok {k : CallableKind} {node : Element} {c : Callable}
    (h : Callable.ofElement k node = .ok c) : ReadsCallable k node c := by
  unfold Callable.ofElement at h
  obtain ⟨name, hname, h⟩ := bind_eq_ok_iff.1 h
  unfold ReadsCallable parameterNodes
  cases hps : node.find? (core "parameters") with
  | some ps =>
    simp only [hps] at h
    obtain ⟨params, hparams, h⟩ := bind_eq_ok_iff.1 h
    cases h
    exact ⟨rfl, get?_of_required hname,
      forall₂_of_mapM (fun _ _ => namedShape_of_parameter) hparams, rfl⟩
  | none =>
    simp only [hps] at h
    obtain ⟨params, hparams, h⟩ := bind_eq_ok_iff.1 h
    cases hparams
    cases h
    exact ⟨rfl, get?_of_required hname, .nil, rfl⟩

theorem readsClass_of_ok {node : Element} {c : GirClass} (h : GirClass.ofElement node = .ok c) :
    ReadsClass node c := by
  unfold GirClass.ofElement at h
  obtain ⟨name, hname, h⟩ := bind_eq_ok_iff.1 h
  obtain ⟨cs, hcs, h⟩ := bind_eq_ok_iff.1 h
  obtain ⟨ms, hms, h⟩ := bind_eq_ok_iff.1 h
  obtain ⟨ps, hps, h⟩ := bind_eq_ok_iff.1 h
  obtain ⟨ss, hss, h⟩ := bind_eq_ok_iff.1 h
  cases h
  exact ⟨get?_of_required hname, forall₂_of_mapM (fun _ _ => readsCallable_of_ok) hcs,
    forall₂_of_mapM (fun _ _ => readsCallable_of_ok) hms,
    forall₂_of_mapM (fun _ _ => namedShape_of_property) hps,
    forall₂_of_mapM (fun _ _ => readsCallable_of_ok) hss⟩

namespace Repository

variable {root ns : Element}

theorem ofElement_of_not_repository (hr : root.is (core "repository") = false) :
    ofElement root = .error (.unexpectedRoot "repository" root.localName) := by
  simp [ofElement, hr, throw, throwThe, MonadExceptOf.throw, bind, Except.bind]

theorem ofElement_of_no_namespace (hr : root.is (core "repository") = true)
    (hns : root.find? (core "namespace") = none) : ofElement root = .error .missingNamespace := by
  simp [ofElement, hr, hns, throw, throwThe, MonadExceptOf.throw]

/-- Past the root and the namespace, loading fails on the first element without a name. -/
theorem failsOnMissing_ofElement (hr : root.is (core "repository") = true)
    (hns : root.find? (core "namespace") = some ns) :
    FailsOnMissing (ofElement root) (namespaceCarriers ns) := by
  simp only [ofElement, hr, hns, indexClasses_eq]
  refine ((failsOnMissing_required ns).bind fun _ _ =>
    ((FailsOnMissing.mapM _ fun x _ => failsOnMissing_class x).map).bind fun _ _ =>
    .pure _).of_eq (by simp [namespaceCarriers])

/-- A loaded repository: its root is the core `<repository>`, its namespace is the first core
`<namespace>` and gives its name; its classes are read one per core `<class>`, in order, and
indexed under their names; its enumerations are the names of the enumerations, then bitfields,
that have one. -/
theorem ofElement_eq_ok {R : Repository} (h : ofElement root = .ok R) :
    root.is (core "repository") = true ∧ ∃ ns cs, root.find? (core "namespace") = some ns ∧
      ns.get? (XName.plain "name") = some R.space ∧
      List.Forall₂ ReadsClass (ns.findAll (core "class")) cs ∧
      R.classes = Index.empty.insertAll (cs.map fun c => (c.name, c)) ∧
      R.enumerations = (ns.findAll (core "enumeration") ++ ns.findAll (core "bitfield")).filterMap
        (·.get? (XName.plain "name")) := by
  cases hr : root.is (core "repository")
  · rw [ofElement_of_not_repository hr] at h
    cases h
  cases hns : root.find? (core "namespace") with
  | none =>
    rw [ofElement_of_no_namespace hr hns] at h
    cases h
  | some ns =>
    simp only [ofElement, hr, hns, indexClasses_eq] at h
    obtain ⟨space, hspace, h⟩ := bind_eq_ok_iff.1 h
    cases hcs : (ns.findAll (core "class")).mapM GirClass.ofElement with
    | error e => simp [hcs, Except.map, bind, Except.bind] at h
    | ok cs =>
      simp only [hcs, Except.map, bind, Except.bind, pure, Except.pure, Except.ok.injEq] at h
      subst h
      exact ⟨rfl, ns, cs, rfl, get?_of_required hspace,
        forall₂_of_mapM (fun _ _ => readsClass_of_ok) hcs, rfl, by simp⟩

end Repository

/-! ## Type shapes -/

theorem Element.find?_eq_head?_findAll (e : Element) (q : XName) :
    e.find? q = (e.findAll q).head? := by
  simp [Element.find?, Element.findAll, List.head?_filter]

/-- The shape of a node's type: its first core `<type>` child; without one, its first core
`<array>` child, with that child's first `<type>` as element; without either, a variable argument
list when it has a `<varargs>` child; else unrecognized, shown as the node's markup. -/
theorem shape_ofElement_cases (node : Element) :
    (∀ t, node.find? (core "type") = some t → Shape.ofElement node = .direct (TypeName.ofElement t)) ∧
    (node.find? (core "type") = none → ∀ a, node.find? (core "array") = some a →
      Shape.ofElement node = .array (a.get? cTypeName) ((a.find? (core "type")).map TypeName.ofElement)) ∧
    (node.find? (core "type") = none → node.find? (core "array") = none →
      (node.find? (core "varargs")).isSome → Shape.ofElement node = .varargs) ∧
    (node.find? (core "type") = none → node.find? (core "array") = none →
      node.find? (core "varargs") = none → Shape.ofElement node = .unrecognized node.render) := by
  refine ⟨fun t ht => ?_, fun hnt a ha => ?_, fun hnt hna hv => ?_, fun hnt hna hv => ?_⟩ <;>
    simp_all [Shape.ofElement]

/-- Only the children of the three names decide the shape, each name's in their own order:
children of one name moved among those of another, or among other children, change nothing but
the markup shown for an unrecognized shape. -/
theorem shape_ofElement_eq_of_findAll {node node' : Element}
    (ht : node.findAll (core "type") = node'.findAll (core "type"))
    (ha : node.findAll (core "array") = node'.findAll (core "array"))
    (hv : node.findAll (core "varargs") = node'.findAll (core "varargs")) :
    Shape.ofElement node = Shape.ofElement node' ∨
      ∃ x y, Shape.ofElement node = .unrecognized x ∧ Shape.ofElement node' = .unrecognized y := by
  simp only [Shape.ofElement, Element.find?_eq_head?_findAll, ht, ha, hv]
  split
  · exact .inl rfl
  · split
    · exact .inl rfl
    · split
      · exact .inl rfl
      · exact .inr ⟨_, _, rfl, rfl⟩

open Repository in
/-- Loading succeeds exactly when the root is the core `<repository>` with a `<namespace>` whose
elements all have a `name`, fails on the first one without, and keeps what it reads in order. -/
theorem loading_reads_every_level (root : Element) :
    ((∃ R, ofElement root = .ok R) ↔ root.is (core "repository") = true ∧
      ∃ ns, root.find? (core "namespace") = some ns ∧
        ∀ x ∈ namespaceCarriers ns, (x.get? (XName.plain "name")).isSome) ∧
    (root.is (core "repository") = false →
      ofElement root = .error (.unexpectedRoot "repository" root.localName)) ∧
    (root.is (core "repository") = true → root.find? (core "namespace") = none →
      ofElement root = .error .missingNamespace) ∧
    (∀ ns e, root.is (core "repository") = true → root.find? (core "namespace") = some ns →
      (ofElement root = .error e ↔ missingName (namespaceCarriers ns) = some e)) ∧
    (∀ R, ofElement root = .ok R → ∃ ns cs, root.find? (core "namespace") = some ns ∧
      ns.get? (XName.plain "name") = some R.space ∧
      List.Forall₂ ReadsClass (ns.findAll (core "class")) cs ∧
      R.classes = Index.empty.insertAll (cs.map fun c => (c.name, c)) ∧
      R.enumerations = (ns.findAll (core "enumeration") ++ ns.findAll (core "bitfield")).filterMap
        (·.get? (XName.plain "name"))) ∧
    (∀ node : Element,
      (∀ t, node.find? (core "type") = some t →
        Shape.ofElement node = .direct (TypeName.ofElement t)) ∧
      (node.find? (core "type") = none → ∀ a, node.find? (core "array") = some a →
        Shape.ofElement node =
          .array (a.get? cTypeName) ((a.find? (core "type")).map TypeName.ofElement)) ∧
      (node.find? (core "type") = none → node.find? (core "array") = none →
        (node.find? (core "varargs")).isSome → Shape.ofElement node = .varargs) ∧
      (node.find? (core "type") = none → node.find? (core "array") = none →
        node.find? (core "varargs") = none → Shape.ofElement node = .unrecognized node.render)) ∧
    ∀ node node' : Element, node.findAll (core "type") = node'.findAll (core "type") →
      node.findAll (core "array") = node'.findAll (core "array") →
      node.findAll (core "varargs") = node'.findAll (core "varargs") →
      Shape.ofElement node = Shape.ofElement node' ∨
        ∃ x y, Shape.ofElement node = .unrecognized x ∧ Shape.ofElement node' = .unrecognized y := by
  refine ⟨⟨fun ⟨R, h⟩ => ?_, fun ⟨hr, ns, hns, hall⟩ => ?_⟩, ofElement_of_not_repository,
    ofElement_of_no_namespace, fun ns e hr hns => failsOnMissing_ofElement hr hns e,
    fun R h => (ofElement_eq_ok h).2, shape_ofElement_cases,
    fun _ _ => shape_ofElement_eq_of_findAll⟩
  · -- a loaded repository passed the root and namespace checks, and nothing lacked a name
    obtain ⟨hr, ns, -, hns, -⟩ := ofElement_eq_ok h
    refine ⟨hr, ns, hns, missingName_eq_none_iff.1 ?_⟩
    exact (failsOnMissing_ofElement hr hns).ok_iff.1 ⟨R, h⟩
  · exact (failsOnMissing_ofElement hr hns).ok_iff.2 (missingName_eq_none_iff.2 hall)

end GirAda.Gir
