import GirAda.Proofs.Accounting

/-!
# Skipped members leave no trace

A member that does not bind is reported and nothing else: it makes no edit to its package, and
the other members do not depend on it, so a run over the document without it writes the same
text and the same packages and reports the same diagnostics but its own
(`skipped_member_leaves_no_trace`).

Three facts carry this. Taking a failed outcome out of a list of outcomes keeps the successes
and takes one diagnostic out of the failures (`Drops.outcomes`); a stable sort commutes with
taking an element out (`Drops.mergeSort`), which covers the signals, generated in sorted order;
and the generator reads the document only through the names of its classes and enumerations,
which taking a member out does not change (`classStep_withRepository`).
-/

namespace GirAda

open GirAda.Gir GirAda.Ada GirAda.Override

/-! ## Taking one element out of a list -/

section Drops

variable {α : Type}

/-- `l'` is `l` with one occurrence of `x` taken out. -/
def Drops (x : α) (l l' : List α) : Prop := ∃ s₁ s₂, l = s₁ ++ x :: s₂ ∧ l' = s₁ ++ s₂

theorem drops_eraseIdx {l : List α} {i : Nat} {x : α} (h : l[i]? = some x) :
    Drops x l (l.eraseIdx i) := by
  obtain ⟨hi, rfl⟩ := List.getElem?_eq_some_iff.1 h
  refine ⟨l.take i, l.drop (i + 1), ?_, List.eraseIdx_eq_take_drop_succ l i⟩
  rw [← List.drop_eq_getElem_cons hi, List.take_append_drop]

namespace Drops

variable {x : α} {l l' : List α}

theorem append_left (h : Drops x l l') (A : List α) : Drops x (A ++ l) (A ++ l') := by
  obtain ⟨s₁, s₂, rfl, rfl⟩ := h
  exact ⟨A ++ s₁, s₂, by simp, by simp⟩

theorem append_right (h : Drops x l l') (B : List α) : Drops x (l ++ B) (l' ++ B) := by
  obtain ⟨s₁, s₂, rfl, rfl⟩ := h
  exact ⟨s₁, s₂ ++ B, by simp, by simp⟩

/-- Taking out a member that fails keeps the successes and takes its error out of the
failures. -/
theorem outcomes {ε γ : Type} {out : α → Except ε γ} {e : ε} (h : Drops x l l')
    (hx : out x = .error e) :
    successes (l'.map out) = successes (l.map out) ∧
      Drops e (failures (l.map out)) (failures (l'.map out)) := by
  obtain ⟨s₁, s₂, rfl, rfl⟩ := h
  exact ⟨by simp [hx], failures (s₁.map out), failures (s₂.map out), by simp [hx], by simp⟩

/-- Taking out the element at `i`, whose outcome failed with `e`. -/
theorem outcomes_eraseIdx {ε γ : Type} {out : α → Except ε γ} {l : List α} {i : Nat} {e : ε}
    (h : (l[i]?.bind fun x => failure? (out x)) = some e) :
    successes ((l.eraseIdx i).map out) = successes (l.map out) ∧
      Drops e (failures (l.map out)) (failures ((l.eraseIdx i).map out)) := by
  obtain ⟨x, hx, hf⟩ := Option.bind_eq_some_iff.1 h
  exact (drops_eraseIdx hx).outcomes (failure?_eq_some.1 hf)

end Drops

/-- Two cuts of one list, each with every element before it satisfying `P` and none after it,
are the same cut. -/
theorem eq_of_append_eq_append_of_cut {P : α → Prop} {p q p' q' : List α}
    (h : p ++ q = p' ++ q') (hp : ∀ b ∈ p, P b) (hq : ∀ b ∈ q, ¬P b) (hp' : ∀ b ∈ p', P b)
    (hq' : ∀ b ∈ q', ¬P b) : p = p' ∧ q = q' := by
  induction p generalizing p' with
  | nil =>
    cases p' with
    | nil => exact ⟨rfl, by simpa using h⟩
    | cons b p' =>
      simp only [List.nil_append, List.cons_append] at h
      exact absurd (hp' b (by simp)) (hq b (by simp [h]))
  | cons a p ih =>
    cases p' with
    | nil =>
      simp only [List.nil_append, List.cons_append] at h
      exact absurd (hp a (by simp)) (hq' a (by simp [← h]))
    | cons b p' =>
      simp only [List.cons_append, List.cons.injEq] at h
      obtain ⟨rfl, h⟩ := h
      obtain ⟨rfl, rfl⟩ := ih h (fun c hc => hp c (by simp [hc])) (fun c hc => hp' c (by simp [hc]))
      exact ⟨rfl, rfl⟩

/-- Putting an element at the cut of `P` in two lists, one of them the other with `x` taken
out. -/
theorem Drops.insert_at_cut (P : α → Prop) {x a : α} {t₁ t₂ u₁ u₂ : List α}
    (h : Drops x (t₁ ++ t₂) (u₁ ++ u₂)) (ht₁ : ∀ b ∈ t₁, P b) (ht₂ : ∀ b ∈ t₂, ¬P b)
    (hu₁ : ∀ b ∈ u₁, P b) (hu₂ : ∀ b ∈ u₂, ¬P b) :
    Drops x (t₁ ++ a :: t₂) (u₁ ++ a :: u₂) := by
  obtain ⟨s₁, s₂, hl, hl'⟩ := h
  rcases List.append_eq_append_iff.1 hl with ⟨m, rfl, rfl⟩ | ⟨m, rfl, hm⟩
  · -- `x` comes after the cut: the cut of the shorter list is where it was
    obtain ⟨rfl, rfl⟩ := eq_of_append_eq_append_of_cut
      (show t₁ ++ (m ++ s₂) = u₁ ++ u₂ by simpa using hl'.symm) ht₁
      (fun b hb => ht₂ b (((List.sublist_cons_self x s₂).append_left m).subset hb)) hu₁ hu₂
    exact ⟨t₁ ++ a :: m, s₂, by simp, by simp⟩
  · cases m with
    | nil =>
      obtain ⟨rfl, rfl⟩ := by simpa using hm
      obtain ⟨rfl, rfl⟩ := eq_of_append_eq_append_of_cut hl'.symm
        (fun b hb => ht₁ b (by simp [hb])) (fun b hb => ht₂ b (by simp [hb])) hu₁ hu₂
      exact ⟨s₁ ++ [a], s₂, by simp, by simp⟩
    | cons y m =>
      -- `x` comes before the cut, which moves back by one in the shorter list
      obtain ⟨rfl, rfl⟩ := List.cons.inj hm
      obtain ⟨rfl, rfl⟩ := eq_of_append_eq_append_of_cut
        (show s₁ ++ m ++ t₂ = u₁ ++ u₂ by simpa using hl'.symm)
        (fun b hb => ht₁ b (((List.sublist_cons_self x m).append_left s₁).subset hb)) ht₂ hu₁ hu₂
      exact ⟨s₁, m ++ a :: t₂, by simp, by simp⟩

/-- A stable sort commutes with taking an element out. -/
theorem Drops.mergeSort {le : α → α → Bool} (trans : ∀ a b c, le a b → le b c → le a c)
    (total : ∀ a b, (le a b || le b a) = true) {x : α} {l l' : List α} (h : Drops x l l') :
    Drops x (l.mergeSort le) (l'.mergeSort le) := by
  obtain ⟨s₁, s₂, rfl, rfl⟩ := h
  -- induction on the elements before `x`; the head `a` of both lists is sorted in at the same
  -- cut, before the first element it does not go after
  induction s₁ with
  | nil =>
    obtain ⟨l₁, l₂, h₁, h₂, -⟩ := List.mergeSort_cons trans total x s₂
    exact ⟨l₁, l₂, h₁, h₂⟩
  | cons a s₁ ih =>
    obtain ⟨t₁, t₂, ht, ht', ht₁⟩ := List.mergeSort_cons trans total a (s₁ ++ x :: s₂)
    obtain ⟨u₁, u₂, hu, hu', hu₁⟩ := List.mergeSort_cons trans total a (s₁ ++ s₂)
    have hsorted (k k₁ k₂ : List α) (hk : k.mergeSort le = k₁ ++ a :: k₂) :
        ∀ b ∈ k₂, le a b = true := fun b hb => by
      have := List.pairwise_mergeSort trans total k
      rw [hk, List.pairwise_append, List.pairwise_cons] at this
      exact this.2.1.1 b hb
    rw [ht', hu'] at ih
    rw [List.cons_append, ht, List.cons_append, hu]
    exact ih.insert_at_cut (fun b => le a b = false) (fun b hb => by simpa using ht₁ b hb)
      (fun b hb => by simp [hsorted _ _ _ ht b hb]) (fun b hb => by simpa using hu₁ b hb)
      (fun b hb => by simp [hsorted _ _ _ hu b hb])

end Drops

/-! ## Members of a document -/

namespace Gir

/-- A member of a class: its kind and its place among the members of that kind, in document
order. -/
inductive Member where
  | constructor (i : Nat)
  | method (i : Nat)
  | property (i : Nat)
  | signal (i : Nat)
  deriving DecidableEq, Repr

/-- The class without one of its members. -/
def GirClass.deleteMember (c : GirClass) : Member → GirClass
  | .constructor i => { c with constructors := c.constructors.eraseIdx i }
  | .method i => { c with methods := c.methods.eraseIdx i }
  | .property i => { c with properties := c.properties.eraseIdx i }
  | .signal i => { c with signals := c.signals.eraseIdx i }

@[simp] theorem GirClass.name_deleteMember (c : GirClass) (m : Member) :
    (c.deleteMember m).name = c.name := by
  cases m <;> rfl

/-- The document with one member taken out of the class of its `j`-th entry. -/
def Repository.deleteMember (r : Repository) (j : Nat) (m : Member) : Repository :=
  { r with classes := { r.classes with storage := r.classes.storage.modify j (·.deleteMember m) } }

namespace Repository

variable {repo : Repository} {j : Nat} {e : String × GirClass}

/-- Taking a member out of the class of an entry changes that entry only, and keeps its name. -/
theorem split_deleteMember (he : repo.classes.entries[j]? = some e) (m : Member) :
    ∃ s₁ s₂, repo.classes.entries = s₁ ++ e :: s₂ ∧
      (repo.deleteMember j m).classes.entries = s₁ ++ (e.1, e.2.deleteMember m) :: s₂ := by
  obtain ⟨hj, rfl⟩ := List.getElem?_eq_some_iff.1 he
  refine ⟨_, _, ?_, (Index.entries_modify _ j _).trans (List.modify_eq_take_cons_drop hj)⟩
  rw [← List.drop_eq_getElem_cons hj, List.take_append_drop]

/-- Taking a member out of a class keeps the names of the classes. -/
theorem isClass_deleteMember (r : Repository) (j : Nat) (m : Member) (n : String) :
    (r.deleteMember j m).isClass n = r.isClass n := rfl

end Repository

end Gir

/-! ## The generator reads the document through its names -/

section SameNames

variable {repo : Repository}

namespace Ada

/-- The resolver over another document. -/
def Resolver.withRepository (r : Resolver) (repo : Repository) : Resolver :=
  { r with repository := repo }

section Resolver

variable (r : Resolver) (hc : ∀ n, repo.isClass n = r.repository.isClass n)
  (he : ∀ n, repo.isEnumeration n = r.repository.isEnumeration n)
include hc he

theorem Resolver.direct_withRepository : (r.withRepository repo).direct = r.direct := by
  funext t
  simp only [Resolver.direct, Resolver.withRepository, Resolver.objectMapping, hc, he]

theorem Resolver.array_withRepository : (r.withRepository repo).array = r.array := by
  funext t
  simp only [Resolver.array, r.direct_withRepository hc he]
  rfl

theorem Resolver.classify_withRepository : (r.withRepository repo).classify = r.classify := by
  funext s
  rcases s with t | ⟨c, _ | t⟩ | _ | x <;>
    simp only [Resolver.classify, r.direct_withRepository hc he, r.array_withRepository hc he]

theorem Resolver.resolveFor_withRepository :
    (r.withRepository repo).resolveFor = r.resolveFor := by
  funext what s
  simp only [Resolver.resolveFor, Resolver.resolve, r.classify_withRepository hc he]

theorem Resolver.resolveReturn_withRepository :
    (r.withRepository repo).resolveReturn = r.resolveReturn := by
  funext o
  simp only [Resolver.resolveReturn, r.resolveFor_withRepository hc he]

end Resolver

/-- The same signatures are built over a document with the same names. -/
theorem SignatureBuilder.build_withRepository (b : SignatureBuilder)
    (hc : ∀ n, repo.isClass n = b.resolver.repository.isClass n)
    (he : ∀ n, repo.isEnumeration n = b.resolver.repository.isEnumeration n) :
    ({ b with resolver := b.resolver.withRepository repo } : SignatureBuilder).build = b.build := by
  have hparams : ∀ id ps,
      ({ b with resolver := b.resolver.withRepository repo } : SignatureBuilder).params id ps =
        b.params id ps := by
    intro id ps
    induction ps with
    | nil => rfl
    | cons p ps ih =>
      simp only [SignatureBuilder.params, ih, b.resolver.resolveFor_withRepository hc he]
      rfl
  funext c
  simp only [SignatureBuilder.build, hparams, b.resolver.resolveReturn_withRepository hc he]
  rfl

end Ada

namespace Generator

/-- The same generator over another document. -/
def withRepository (g : Generator) (repo : Repository) : Generator :=
  ⟨⟨g.resolver.withRepository repo, g.overrides⟩, g.propertyTypes⟩

variable (g : Generator) (hc : ∀ n, repo.isClass n = g.repository.isClass n)
  (he : ∀ n, repo.isEnumeration n = g.repository.isEnumeration n)
include hc he

theorem callableOutcome_withRepository :
    (g.withRepository repo).callableOutcome = g.callableOutcome := by
  funext x
  exact congrArg _ (congrFun (g.builder.build_withRepository hc he) x)

theorem signalOutcome_withRepository :
    (g.withRepository repo).signalOutcome = g.signalOutcome := by
  funext names x
  exact congrArg _ (congrFun (g.builder.build_withRepository hc he) x)

theorem propertyOutcome_withRepository :
    (g.withRepository repo).propertyOutcome = g.propertyOutcome := by
  funext names x
  simp only [propertyOutcome, PropertyTypes.bindProperty, withRepository, resolver,
    g.builder.resolver.resolveFor_withRepository hc he]
  rfl

/-- A generator over a document with the same class names and enumerations makes the same
edits for every class and reports the same diagnostics. -/
theorem classStep_withRepository :
    (g.withRepository repo).classStep = g.classStep ∧
      (g.withRepository repo).diagnosticsOf = g.diagnosticsOf := by
  constructor
  · funext c
    simp only [classStep, editsOf, classEdits, boundProperties, boundSignals,
      g.callableOutcome_withRepository hc he, g.signalOutcome_withRepository hc he,
      g.propertyOutcome_withRepository hc he]
    rfl
  · funext c
    simp only [diagnosticsOf, classDiagnostics, g.callableOutcome_withRepository hc he,
      g.signalOutcome_withRepository hc he, g.propertyOutcome_withRepository hc he]
    rfl

end Generator

end SameNames

/-! ## Taking out a member that does not bind -/

namespace Generator

/-- The signals of a class are generated in an order that commutes with taking one out. -/
theorem drops_sortedSignals {c : GirClass} {i : Nat} {x : Callable} (hx : c.signals[i]? = some x) :
    Drops x (sortedSignals c) (sortedSignals (c.deleteMember (.signal i))) :=
  (drops_eraseIdx hx).mergeSort
    (fun a b c hab hbc => by simp only [decide_eq_true_eq] at *; exact le_trans hab hbc)
    (fun a b => by simpa using le_total a.name b.name)

variable (g : Generator)

/-- The diagnostic of a member of a class, when the member is there and does not bind. -/
def memberFailure? (c : GirClass) : Member → Option Diagnostic
  | .constructor i => c.constructors[i]?.bind fun x => failure? (g.callableOutcome x)
  | .method i => c.methods[i]?.bind fun x => failure? (g.callableOutcome x)
  | .property i => c.properties[i]?.bind fun x => failure? (g.propertyOutcome (g.namesOf c) x)
  | .signal i => c.signals[i]?.bind fun x => failure? (g.signalOutcome (g.namesOf c) x)

/-- Taking out a member that does not bind leaves the edits of its class as they are and takes
its diagnostic out of the class's diagnostics. -/
theorem deleteMember_of_failure {c : GirClass} {m : Member} {d : Diagnostic}
    (hd : g.memberFailure? c m = some d) :
    g.classStep (c.deleteMember m) = g.classStep c ∧
      Drops d (g.diagnosticsOf c) (g.diagnosticsOf (c.deleteMember m)) := by
  cases m with
  | constructor i =>
    obtain ⟨hs, hdrop⟩ := Drops.outcomes_eraseIdx hd
    constructor
    · simp only [GirClass.deleteMember, classStep, editsOf, classEdits, hs]
      rfl
    · simp only [GirClass.deleteMember, diagnosticsOf, classDiagnostics, List.append_assoc]
      exact hdrop.append_right _
  | method i =>
    obtain ⟨hs, hdrop⟩ := Drops.outcomes_eraseIdx hd
    constructor
    · simp only [GirClass.deleteMember, classStep, editsOf, classEdits, hs]
      rfl
    · simp only [GirClass.deleteMember, diagnosticsOf, classDiagnostics, List.append_assoc]
      exact ((hdrop.append_right _).append_left _).append_left _
  | property i =>
    obtain ⟨hs, hdrop⟩ := Drops.outcomes_eraseIdx hd
    simp only [namesOf] at hs hdrop
    constructor
    · simp only [GirClass.deleteMember, classStep, editsOf, classEdits, boundProperties, namesOf, hs]
      rfl
    · simp only [GirClass.deleteMember, diagnosticsOf, classDiagnostics, namesOf, List.append_assoc]
      exact (((hdrop.append_right _).append_left _).append_left _).append_left _
  | signal i =>
    obtain ⟨x, hx, hf⟩ := Option.bind_eq_some_iff.1 hd
    obtain ⟨hs, hdrop⟩ := (drops_sortedSignals hx).outcomes (failure?_eq_some.1 hf)
    simp only [namesOf] at hs hdrop
    constructor
    · simp only [classStep, editsOf, classEdits, boundSignals, namesOf, GirClass.name_deleteMember,
        hs]
      rfl
    · simp only [diagnosticsOf, classDiagnostics, namesOf, GirClass.name_deleteMember,
        List.append_assoc]
      exact (((hdrop.append_left _).append_left _).append_left _).append_left _

/-- The classes of a run over the document with one member taken out of the class of an entry
that is not a hook class: the same classes, that class without the member in its place. -/
theorem generatedClasses_deleteMember {repo : Repository} {config : Config} {j : Nat}
    {e : String × GirClass} (he : repo.classes.entries[j]? = some e)
    (hhook : config.isHookClass e.1 = false) (m : Member) :
    ∃ A B : List GirClass, generatedClasses repo config = A ++ e.2 :: B ∧
      generatedClasses (repo.deleteMember j m) config = A ++ e.2.deleteMember m :: B := by
  obtain ⟨s₁, s₂, hs, hs'⟩ := Repository.split_deleteMember he m
  exact ⟨(s₁.filter fun e => !config.isHookClass e.1).map Prod.snd,
    (s₂.filter fun e => !config.isHookClass e.1).map Prod.snd,
    by simp [generatedClasses, hs, hhook], by simp [generatedClasses, hs', hhook]⟩

/-- A member that does not bind leaves no trace. Without a class to single out, take a member
of a class that is not a hook class, which a run reports with the diagnostic `d`: the run over
the document without that member writes the same text and the same number of packages, and
reports the same diagnostics in the same order, with `d` taken out. -/
theorem skipped_member_leaves_no_trace (repo : Repository) (overrides : Registry)
    (config : Config) (h : config.onlyClass = none) (j : Nat) {e : String × GirClass}
    (he : repo.classes.entries[j]? = some e) (hhook : config.isHookClass e.1 = false)
    {m : Member} {d : Diagnostic}
    (hd : (Generator.new repo overrides config).memberFailure? e.2 m = some d) :
    ∃ out out' : Output, ∃ ds₁ ds₂ : List Diagnostic,
      (Generator.new repo overrides config).generate config = .ok out ∧
      (Generator.new (repo.deleteMember j m) overrides config).generate config = .ok out' ∧
      out'.text = out.text ∧ out'.numPackages = out.numPackages ∧
      out.diagnostics = ds₁ ++ d :: ds₂ ∧ out'.diagnostics = ds₁ ++ ds₂ := by
  let g := Generator.new repo overrides config
  -- the run without the member is the same generator over a document with the same names
  obtain ⟨hstep, hdiag⟩ := g.classStep_withRepository
    (Repository.isClass_deleteMember repo j m) (fun _ => rfl)
  obtain ⟨A, B, hcs, hcs'⟩ := generatedClasses_deleteMember he hhook m
  obtain ⟨hclass, D₁, D₂, hD, hD'⟩ := g.deleteMember_of_failure hd
  have hsteps : (generatedClasses (repo.deleteMember j m) config).map
      (g.withRepository (repo.deleteMember j m)).classStep =
        (generatedClasses repo config).map g.classStep := by
    rw [hstep, hcs, hcs']
    simp [hclass]
  refine ⟨_, _, A.flatMap g.diagnosticsOf ++ D₁, D₂ ++ B.flatMap g.diagnosticsOf,
    g.generate_eq h, (g.withRepository (repo.deleteMember j m)).generate_eq h, ?_, ?_, ?_, ?_⟩
  · exact congrArg (fun steps => (PackageSet.empty.run steps).render fileHeader) hsteps
  · exact congrArg (fun steps => (PackageSet.empty.run steps).size) hsteps
  · show (generatedClasses repo config).flatMap g.diagnosticsOf = _
    simp [hcs, hD]
  · show (generatedClasses (repo.deleteMember j m) config).flatMap
      (g.withRepository (repo.deleteMember j m)).diagnosticsOf = _
    simp [hdiag, hcs', hD']

/-- A constructor with a variadic parameter is skipped, and the run over the document without
it differs from the run over the document only by that diagnostic. -/
theorem variadic_constructor_leaves_no_trace :
    let button : GirClass := ⟨"Button", none, none, none,
      [⟨.constructor, "new", some "gtk_button_new", [⟨"args", .varargs, none⟩], none, none, none⟩],
      [], [], []⟩
    let repo : Repository := ⟨"Gtk", Index.empty.insert "Button" button, []⟩
    Config.default.onlyClass = none ∧ repo.classes.entries[0]? = some ("Button", button) ∧
      Config.default.isHookClass "Button" = false ∧
      (Generator.new repo Registry.empty Config.default).memberFailure? button (.constructor 0) =
        some ⟨"gtk_button_new", .varargs⟩ ∧
      ∃ out out' : Output, ∃ ds₁ ds₂ : List Diagnostic,
        (Generator.new repo Registry.empty Config.default).generate Config.default = .ok out ∧
        (Generator.new (repo.deleteMember 0 (.constructor 0)) Registry.empty Config.default).generate
          Config.default = .ok out' ∧
        out'.text = out.text ∧ out'.numPackages = out.numPackages ∧
        out.diagnostics = ds₁ ++ ⟨"gtk_button_new", .varargs⟩ :: ds₂ ∧
        out'.diagnostics = ds₁ ++ ds₂ :=
  ⟨rfl, rfl, by decide, by decide,
    skipped_member_leaves_no_trace _ Registry.empty Config.default rfl 0 rfl (by decide)
      (by decide)⟩

end Generator

end GirAda
