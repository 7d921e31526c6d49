import Mathlib.Data.List.Perm.Subperm
import GirAda.Proofs.Wrappers
import GirAda.Proofs.Calls

/-!
# Identifiers declared in lowered bodies

A lowered subprogram declares, in one scope, its formals (`Self`, then the parameters) and what
its body declares: the imported `Internal`, the variables `Tmp_P` its call passes parameters
through, `Tmp_Return` when the result must wait for cleanups, and a stub object `Stub_T` when an
object comes back from C. Ada compares identifiers after case folding, so two of them clash when
they fold to the same characters (`SameIdent`).

The identifiers the lowering invents never clash among themselves: each call declares a
variable `Tmp_P` for a parameter at most once, so the body's identifiers are, up to order, among
`Internal`, the `Tmp_` variables of the parameters and of `Return`, and one stub
(`innerNames_method`, `innerNames_constructor`), and these differ in their first letters or in
what follows `Tmp_` (`distinct_invented`). This needs the type table's own conversions to declare no
locals, which holds of the default table; the stub comes from the resolver itself.

Nothing keeps a parameter away from them, though. A parameter named `self` is spelled `Self`,
like the object a wrapper takes first, and `internal` or `tmp_label` next to `label` clash in the
same way. A body is hygienic exactly when the parameters' names are distinct and none of them is
`Self` or an identifier of the body.

Main statement: `lowered_bodies_hygienic_iff`.
-/

namespace GirAda.Ada

open GirAda.Gir GirAda.Override GirAda.Text

/-! ## Identifiers as Ada compares them -/

/-- Two identifiers are the same for Ada when they agree character by character once case is
folded. -/
def SameIdent (fold : Char → Char) (a b : String) : Prop := a.toList.map fold = b.toList.map fold

instance (fold : Char → Char) : DecidableRel (SameIdent fold) :=
  fun _ _ => inferInstanceAs (Decidable (_ = _))

/-- Identifiers no two of which are the same. -/
def DistinctIdents (fold : Char → Char) (names : List String) : Prop :=
  names.Pairwise fun a b => ¬ SameIdent fold a b

instance (fold : Char → Char) : DecidablePred (DistinctIdents fold) :=
  fun _ => inferInstanceAs (Decidable (List.Pairwise _ _))

/-- A case folding that lowers the ASCII letters and keeps the other ASCII characters, as Ada's
simple case folding does. -/
def FoldsAscii (fold : Char → Char) : Prop := ∀ c : Char, c.toNat < 128 → fold c = c.toLower

/-- The identifier a declaration `Name : Type ...;` declares: what comes before its first blank. -/
def declaredName (decl : String) : String := String.ofList (decl.toList.takeWhile (· != ' '))

namespace Subprogram

/-- The identifiers declared in a subprogram's body: its nested subprograms, then its locals. -/
def innerNames (sub : Subprogram) : List String :=
  match sub.body with
  | .code nested locals _ => nested.map (·.name) ++ locals.map declaredName
  | .noBody | .imported _ => []

/-- The identifiers a subprogram declares in its own scope: its formals, then those of its body. -/
def declaredNames (sub : Subprogram) : List String := sub.parameters.map (·.name) ++ sub.innerNames

end Subprogram

/-- A mapping whose conversions declare no local of their own, except the stub object a
conversion from C may return objects through. -/
def Mapping.StubLocals (m : Mapping) : Prop :=
  m.toC.localDecl = none ∧ ∀ d ∈ m.fromC.localDecl, ∃ x, declaredName d = "Stub_" ++ x

/-- A table none of whose mappings declares a local. -/
def TypeTable.LocalFree (t : TypeTable) : Prop :=
  (∀ e ∈ t.byName, e.2.toC.localDecl = none ∧ e.2.fromC.localDecl = none) ∧
    ∀ e ∈ t.arrays, e.2.toC.localDecl = none ∧ e.2.fromC.localDecl = none

instance (t : TypeTable) : Decidable t.LocalFree := inferInstanceAs (Decidable (_ ∧ _))

section Folding

variable {fold : Char → Char}

theorem SameIdent.symm {a b : String} (h : SameIdent fold a b) : SameIdent fold b a := Eq.symm h

@[simp] theorem sameIdent_append_left (x a b : String) :
    SameIdent fold (x ++ a) (x ++ b) ↔ SameIdent fold a b := by
  simp [SameIdent, String.toList_append]

/-- Identifiers whose first characters fold apart are not the same. -/
theorem not_sameIdent_of_head {a b : String} {c d : Char} (ha : a.toList.head? = some c)
    (hb : b.toList.head? = some d) (h : fold c ≠ fold d) : ¬ SameIdent fold a b := by
  intro hab
  have := congrArg List.head? hab
  rw [List.head?_map, List.head?_map, ha, hb] at this
  exact h (Option.some.inj this)

theorem head?_toList_append {a : String} {c : Char} (ha : a.toList.head? = some c) (b : String) :
    (a ++ b).toList.head? = some c := by
  rw [String.toList_append, List.head?_append, ha]
  rfl

theorem distinctIdents_map_append_left (x : String) (names : List String) :
    DistinctIdents fold (names.map (x ++ ·)) ↔ DistinctIdents fold names := by
  simp [DistinctIdents, List.pairwise_map]

/-- Distinctness only depends on which identifiers there are, not on their order, and holds of
fewer of them. -/
theorem DistinctIdents.of_subperm {l₁ l₂ : List String} (h : l₁.Subperm l₂)
    (hd : DistinctIdents fold l₂) : DistinctIdents fold l₁ := by
  obtain ⟨l, hperm, hsub⟩ := h
  exact (hperm.pairwise_iff fun hne hs => hne hs.symm).1 (hd.sublist hsub)

end Folding

/-! ## The identifiers a lowered body invents -/

section Invented

variable {fold : Char → Char} (hfold : FoldsAscii fold)
include hfold

theorem fold_ne_of_ascii {c d : Char} (hc : c.toNat < 128) (hd : d.toNat < 128)
    (h : c.toLower ≠ d.toLower) : fold c ≠ fold d := by
  rw [hfold c hc, hfold d hd]
  exact h

/-- Identifiers that start with ASCII characters of different lower case are not the same. -/
theorem not_sameIdent_of_ascii_heads {a b : String} {c d : Char} (ha : a.toList.head? = some c)
    (hb : b.toList.head? = some d) (hc : c.toNat < 128) (hd : d.toNat < 128)
    (h : c.toLower ≠ d.toLower) : ¬ SameIdent fold a b :=
  not_sameIdent_of_head ha hb (fold_ne_of_ascii hfold hc hd h)

theorem not_sameIdent_self_internal : ¬ SameIdent fold "Self" "Internal" :=
  not_sameIdent_of_ascii_heads hfold rfl rfl (by decide) (by decide) (by decide)

theorem not_sameIdent_self_tmp (n : String) : ¬ SameIdent fold "Self" ("Tmp_" ++ n) :=
  not_sameIdent_of_ascii_heads hfold rfl (head?_toList_append rfl n) (by decide) (by decide)
    (by decide)

/-- `Self` is no stub object: the two differ in their second letter. -/
theorem not_sameIdent_self_stub (y : String) : ¬ SameIdent fold "Self" ("Stub_" ++ y) := by
  rw [show "Self" = "S" ++ "elf" from rfl, show "Stub_" ++ y = "S" ++ ("tub_" ++ y) by
    rw [← String.append_assoc]; rfl, sameIdent_append_left]
  exact not_sameIdent_of_ascii_heads hfold rfl (head?_toList_append rfl y) (by decide) (by decide)
    (by decide)

theorem not_sameIdent_internal_tmp (n : String) : ¬ SameIdent fold "Internal" ("Tmp_" ++ n) :=
  not_sameIdent_of_ascii_heads hfold rfl (head?_toList_append rfl n) (by decide) (by decide)
    (by decide)

theorem not_sameIdent_internal_stub (y : String) : ¬ SameIdent fold "Internal" ("Stub_" ++ y) :=
  not_sameIdent_of_ascii_heads hfold rfl (head?_toList_append rfl y) (by decide) (by decide)
    (by decide)

theorem not_sameIdent_tmp_stub (n y : String) : ¬ SameIdent fold ("Tmp_" ++ n) ("Stub_" ++ y) :=
  not_sameIdent_of_ascii_heads hfold (head?_toList_append rfl n) (head?_toList_append rfl y)
    (by decide) (by decide) (by decide)

/-- The identifiers a lowered body invents: `Self`, `Internal`, the variables `Tmp_` of names
and of `Return`, and stub objects `Stub_`. They are distinct as long as the names are, none of
them is `Return`, and there is at most one stub. -/
theorem distinct_invented {names stubs : List String} (hnames : DistinctIdents fold names)
    (hret : ∀ n ∈ names, ¬ SameIdent fold n "Return") (hlen : stubs.length ≤ 1)
    (hstubs : ∀ x ∈ stubs, ∃ y, x = "Stub_" ++ y) :
    DistinctIdents fold
      ("Self" :: "Internal" :: ((names ++ ["Return"]).map ("Tmp_" ++ ·) ++ stubs)) := by
  -- the variables are apart by what follows `Tmp_`; the other kinds by their first letters
  have htmps : DistinctIdents fold ((names ++ ["Return"]).map ("Tmp_" ++ ·)) := by
    rw [distinctIdents_map_append_left]
    refine List.pairwise_append.2 ⟨hnames, List.pairwise_singleton _ _, fun n hn r hr => ?_⟩
    rw [List.mem_singleton.1 hr]
    exact hret n hn
  have hstubs' : DistinctIdents fold stubs := by
    match stubs, hlen with
    | [], _ => exact List.Pairwise.nil
    | [x], _ => exact List.pairwise_singleton _ x
  have htmp_stub : ∀ a ∈ (names ++ ["Return"]).map ("Tmp_" ++ ·), ∀ b ∈ stubs,
      ¬ SameIdent fold a b := by
    intro a ha b hb
    obtain ⟨n, -, rfl⟩ := List.mem_map.1 ha
    obtain ⟨y, rfl⟩ := hstubs b hb
    exact not_sameIdent_tmp_stub hfold n y
  have hinternal : ∀ b ∈ (names ++ ["Return"]).map ("Tmp_" ++ ·) ++ stubs,
      ¬ SameIdent fold "Internal" b := by
    intro b hb
    rcases List.mem_append.1 hb with hb | hb
    · obtain ⟨n, -, rfl⟩ := List.mem_map.1 hb
      exact not_sameIdent_internal_tmp hfold n
    · obtain ⟨y, rfl⟩ := hstubs b hb
      exact not_sameIdent_internal_stub hfold y
  have hself : ∀ b ∈ "Internal" :: ((names ++ ["Return"]).map ("Tmp_" ++ ·) ++ stubs),
      ¬ SameIdent fold "Self" b := by
    intro b hb
    rcases List.mem_cons.1 hb with rfl | hb
    · exact not_sameIdent_self_internal hfold
    rcases List.mem_append.1 hb with hb | hb
    · obtain ⟨n, -, rfl⟩ := List.mem_map.1 hb
      exact not_sameIdent_self_tmp hfold n
    · obtain ⟨y, rfl⟩ := hstubs b hb
      exact not_sameIdent_self_stub hfold y
  exact .cons hself (.cons hinternal (List.pairwise_append.2 ⟨htmps, hstubs', htmp_stub⟩))

end Invented

/-! ## Declarations -/

/-- A declaration that starts with a name without blanks declares that name, then whatever the
rest declares. -/
theorem declaredName_append_of_not_blank {a : String} (ha : ' ' ∉ a.toList) (b : String) :
    declaredName (a ++ b) = a ++ declaredName b := by
  unfold declaredName
  have hkeep : ∀ c ∈ a.toList, (c != ' ') = true := fun c hc => by
    rw [bne_iff_ne]
    rintro rfl
    exact ha hc
  rw [String.toList_append, List.takeWhile_append_of_pos hkeep]
  simp [String.ofList_append]

@[simp] theorem declaredName_colon (b : String) : declaredName (" : " ++ b) = "" := by
  simp [declaredName, String.toList_append]

/-- The declaration of a variable `Tmp_N`, its parts associated to the right. -/
theorem declaredName_tmp {n : String} (hn : ' ' ∉ n.toList) (b : String) :
    declaredName ("Tmp_" ++ (n ++ (" : " ++ b))) = "Tmp_" ++ n := by
  have htmp : ' ' ∉ "Tmp_".toList := by decide
  rw [declaredName_append_of_not_blank htmp, declaredName_append_of_not_blank hn,
    declaredName_colon, String.append_empty]

/-! ## What a call declares -/

theorem dedupNeighbours_sublist (l : List String) : (dedupNeighbours l).Sublist l := by
  fun_induction dedupNeighbours l with
  | case1 a b rest hab ih => exact ih.cons a
  | case2 a b rest hab ih => exact ih.cons_cons a
  | case3 l => exact List.Sublist.refl l

/-- A parameter whose type converts to C without a local of its own declares its variable
`Tmp_P` for the call, or nothing. -/
theorem declaredNames_paramParts {p : SignatureParam} (hp : ' ' ∉ p.name.toList)
    (hloc : ∀ ty, p.ty.adaType? = some ty → ty.mapping.toC.localDecl = none) :
    ((paramParts p).locals.map declaredName).Sublist ["Tmp_" ++ p.name] := by
  cases hty : p.ty.adaType? with
  | none => simp [paramParts, hty]
  | some ty =>
    have hnone := hloc ty hty
    cases hconv : (p.ty.pointerLike && !ty.mapping.toC.isIdentity) with
    | true =>
      simp only [Bool.and_eq_true, Bool.not_eq_true'] at hconv
      rw [paramParts_of_converted hty hconv.1 hconv.2]
      simp [String.append_assoc, declaredName_tmp hp]
    | false =>
      cases htmp : ty.mapping.toC.temporary with
      | none =>
        rw [paramParts_of_direct hty hconv htmp]
        simp [hnone]
      | some tmp =>
        rw [paramParts_of_temporary hty hconv htmp]
        simp [hnone, String.append_assoc, declaredName_tmp hp]

section Locals

variable {ps : List SignatureParam}
  (hps : ∀ p ∈ ps, ' ' ∉ p.name.toList ∧ ∀ ty, p.ty.adaType? = some ty → ty.mapping.toC.localDecl = none)
include hps

theorem declaredNames_flatMap_paramParts :
    (((ps.map paramParts).flatMap CallParts.locals).map declaredName).Sublist
      (ps.map fun p => "Tmp_" ++ p.name) := by
  induction ps with
  | nil => simp
  | cons p ps ih =>
    obtain ⟨hp, hloc⟩ := hps p (List.mem_cons_self ..)
    rw [List.map_cons, List.flatMap_cons, List.map_append, List.map_cons, ← List.singleton_append]
    exact (declaredNames_paramParts hp hloc).append (ih fun q hq => hps q (List.mem_cons_of_mem p hq))

/-- The locals of a call, when no parameter's conversion to C declares one of its own: variables
`Tmp_P`, in the order of the parameters, each at most once. -/
theorem declaredNames_lowerCall {s : Signature} (hs : s.parameters = ps) (receiver : Option String) :
    ((lowerCall s receiver).locals.map declaredName).Sublist (ps.map fun p => "Tmp_" ++ p.name) := by
  subst hs
  exact ((dedupNeighbours_sublist _).map declaredName).trans (declaredNames_flatMap_paramParts hps)

end Locals

/-! ## What resolved types declare -/

theorem Mapping.stubLocals_of_localFree {m : Mapping}
    (h : m.toC.localDecl = none ∧ m.fromC.localDecl = none) : m.StubLocals :=
  ⟨h.1, fun d hd => by simp [h.2] at hd⟩

theorem Mapping.stubLocals_direct (ada : String) (pkg : Option String) :
    (Mapping.direct ada pkg).StubLocals :=
  stubLocals_of_localFree ⟨rfl, rfl⟩

theorem latestEntry_mem {α : Type} {es : List (String × α)} {k : String} {v : α}
    (h : latestEntry es k = some v) : ∃ e ∈ es, e.2 = v := by
  obtain ⟨e, he, rfl⟩ := Option.map_eq_some_iff.1 h
  exact ⟨e, List.mem_of_find?_eq_some he, rfl⟩

namespace TypeTable

variable {t : TypeTable} (ht : t.LocalFree)
include ht

theorem stubLocals_lookup {name cType : Option String} {k : String} {m : Mapping}
    (h : t.lookup name cType = some (k, m)) : m.StubLocals := by
  have hentry : ∀ n, (latestEntry t.byName n).map (n, ·) = some (k, m) → m.StubLocals := by
    intro n hn
    obtain ⟨m', hm', hkm⟩ := Option.map_eq_some_iff.1 hn
    obtain ⟨e, he, rfl⟩ := latestEntry_mem hm'
    cases hkm
    exact Mapping.stubLocals_of_localFree (ht.1 e he)
  unfold lookup at h
  dsimp only at h
  split at h
  · next r hr =>
    cases h
    obtain ⟨n, -, hn⟩ := Option.bind_eq_some_iff.1 hr
    exact hentry n hn
  · obtain ⟨c, -, hc⟩ := Option.bind_eq_some_iff.1 h
    obtain ⟨n, -, hn⟩ := Option.bind_eq_some_iff.1 hc
    exact hentry n hn

theorem stubLocals_lookupArray {element : String} {m : Mapping} (h : t.lookupArray element = some m) :
    m.StubLocals := by
  obtain ⟨e, he, rfl⟩ := latestEntry_mem h
  exact Mapping.stubLocals_of_localFree (ht.2 e he)

end TypeTable

namespace Resolver

/-- Objects come back from C through a stub object `Stub_T`, the one local a conversion of the
resolver declares. -/
theorem stubLocals_objectMapping (r : Resolver) (name : String) : (r.objectMapping name).StubLocals := by
  refine ⟨rfl, fun d hd => ?_⟩
  have hstub : ' ' ∉ "Stub_".toList := by decide
  simp only [objectMapping, Conversion.withLocal, Option.mem_def, Option.some.injEq] at hd
  subst hd
  simp only [String.append_assoc, declaredName_append_of_not_blank hstub]
  exact ⟨_, rfl⟩

variable {r : Resolver} (ht : r.table.LocalFree)
include ht

theorem stubLocals_direct (t : TypeName) {ty : AdaType} (hty : (r.direct t).adaType? = some ty) :
    ty.mapping.StubLocals := by
  unfold direct at hty
  dsimp only at hty
  split at hty
  · next k m hl =>
    cases hty
    exact TypeTable.stubLocals_lookup ht hl
  · split at hty
    · split at hty
      · cases hty
      · split at hty
        · cases hty
          exact Mapping.stubLocals_direct _ _
        · split at hty
          · cases hty
            exact stubLocals_objectMapping r _
          · cases hty
            exact Mapping.stubLocals_direct _ _
    · cases hty

theorem stubLocals_array (t : TypeName) {ty : AdaType} (hty : (r.array t).adaType? = some ty) :
    ty.mapping.StubLocals := by
  unfold array at hty
  dsimp only at hty
  split at hty
  · next m hm =>
    cases hty
    exact TypeTable.stubLocals_lookupArray ht hm
  · split at hty
    · next hnone => exact absurd (hnone.symm.trans hty) (by simp)
    · cases hty
      exact Mapping.stubLocals_of_localFree ⟨rfl, rfl⟩

/-- Under a table whose mappings declare no locals, a type declares none, but for the stub
object it may come back from C through. -/
theorem stubLocals_classify (s : Shape) {ty : AdaType} (hty : (r.classify s).adaType? = some ty) :
    ty.mapping.StubLocals := by
  cases s with
  | direct t => exact stubLocals_direct ht t hty
  | array c e =>
    cases e with
    | none => cases hty
    | some t => exact stubLocals_array ht t hty
  | varargs => cases hty
  | unrecognized x => cases hty

end Resolver

/-- A value returned is a type the resolver classified. -/
theorem Resolver.exists_classify_of_resolveReturn {r : Resolver} {rv : Option Shape}
    {d : Descriptor} (h : r.resolveReturn rv = .ok (.value d)) : ∃ s, r.classify s = d := by
  cases rv with
  | none => cases h
  | some s =>
    by_cases hnone : ∃ c, s = .direct ⟨some "none", c⟩
    · obtain ⟨c, rfl⟩ := hnone
      cases h
    · have hs : ∀ c, s ≠ .direct ⟨some "none", c⟩ := fun c hc => hnone ⟨c, hc⟩
      rw [Resolver.resolveReturn_some_eq hs] at h
      cases hd : r.resolveFor "return" s with
      | error e =>
        rw [hd] at h
        cases h
      | ok d' =>
        rw [hd] at h
        simp only [bind, Except.bind] at h
        obtain ⟨hclass, -⟩ := Resolver.resolve_eq_some_iff.1 (Resolver.resolveFor_eq_ok_iff.1 hd)
        refine ⟨s, hclass.trans ?_⟩
        split at h
        · cases h
        · cases h
          rfl

/-- Under a table whose mappings declare no locals, the types of a built signature declare none,
but for the stub object a returned object comes back through. -/
theorem stubLocals_of_build {b : SignatureBuilder} {c : Callable} {s : Signature}
    (ht : b.resolver.table.LocalFree) (hs : b.build c = .ok s) :
    (∀ p ∈ s.parameters, ∀ ty, p.ty.adaType? = some ty → ty.mapping.StubLocals) ∧
      ∀ t, s.returnedType = some t → t.mapping.StubLocals := by
  obtain ⟨-, hp, hvoid, hret⟩ := SignatureBuilder.build_eq_ok hs
  refine ⟨fun p hmem ty hty => ?_, fun t hrt => ?_⟩
  · rw [(SignatureBuilder.params_eq_ok hp).2] at hmem
    obtain ⟨q, -, rfl⟩ := List.mem_map.1 hmem
    rw [SignatureBuilder.ty_paramOf] at hty
    exact Resolver.stubLocals_classify ht _ hty
  · cases hr : s.returns with
    | void => simp [Signature.returnedType, hr] at hrt
    | value d =>
      have hk : c.kind ≠ .constructor := fun hk => by
        rw [hvoid hk] at hr
        cases hr
      obtain ⟨sh, rfl⟩ := Resolver.exists_classify_of_resolveReturn (hr ▸ hret hk)
      exact Resolver.stubLocals_classify ht sh (by simpa [Signature.returnedType, hr] using hrt)

/-! ## The identifiers of lowered bodies -/

theorem tmps_sublist (s : Signature) (stubs : List String) :
    (s.parameters.map fun p => "Tmp_" ++ p.name).Sublist
      ((s.parameters.map (·.name) ++ ["Return"]).map ("Tmp_" ++ ·) ++ stubs) := by
  rw [List.map_append, List.map_map, List.append_assoc]
  exact List.sublist_append_left _ _

section Bodies

variable (b : SignatureBuilder) (cls : ClassNames) {s : Signature}
  (hps : ∀ p ∈ s.parameters,
    ' ' ∉ p.name.toList ∧ ∀ ty, p.ty.adaType? = some ty → ty.mapping.toC.localDecl = none)
include hps

/-- A method's body declares `Internal`, variables `Tmp_P` and `Tmp_Return`, and the local its
returned value comes back from C through, each at most once. -/
theorem innerNames_method :
    (b.method cls s).innerNames.Subperm
      ("Internal" :: ((s.parameters.map (·.name) ++ ["Return"]).map ("Tmp_" ++ ·) ++
        (s.returnedType.bind fun t => t.mapping.fromC.localDecl).toList.map declaredName)) := by
  have hcall := declaredNames_lowerCall hps rfl (some "Get_Object (Self)")
  have hinternal : (lowerCall s (some "Get_Object (Self)")).internal.name = "Internal" := rfl
  have htmps : (s.parameters.map (·.name) ++ ["Return"]).map ("Tmp_" ++ ·) =
      (s.parameters.map fun p => "Tmp_" ++ p.name) ++ ["Tmp_Return"] := by
    simp only [List.map_append, List.map_map, List.map_cons, List.map_nil]
    rfl
  have hreturn (ty : String) : declaredName ("Tmp_Return : " ++ ty ++ ";") = "Tmp_Return" := by
    rw [show "Tmp_Return : " = "Tmp_Return" ++ " : " from rfl]
    simp only [String.append_assoc, declaredName_append_of_not_blank (by decide : ' ' ∉ "Tmp_Return".toList),
      declaredName_colon, String.append_empty]
  unfold SignatureBuilder.method
  cases hrt : s.returnedType with
  | none =>
    simp only [Subprogram.innerNames, List.map_cons, List.map_nil, hinternal, htmps, Option.bind_none,
      Option.toList_none, List.append_nil, List.singleton_append]
    exact ((hcall.trans (List.sublist_append_left _ _)).cons_cons _).subperm
  | some t =>
    dsimp only
    split
    · simp only [Subprogram.innerNames, List.map_cons, List.map_nil, hinternal, htmps, Option.bind_some,
        List.map_append, List.singleton_append]
      exact (((hcall.trans (List.sublist_append_left _ _)).append (List.Sublist.refl _)).cons_cons _).subperm
    · simp only [Subprogram.innerNames, List.map_cons, List.map_nil, hinternal, htmps, Option.bind_some,
        List.map_append, List.singleton_append, hreturn]
      have hperm : ((s.parameters.map fun p => "Tmp_" ++ p.name) ++
          t.mapping.fromC.localDecl.toList.map declaredName ++ ["Tmp_Return"]).Perm
          ((s.parameters.map fun p => "Tmp_" ++ p.name) ++ ["Tmp_Return"] ++
            t.mapping.fromC.localDecl.toList.map declaredName) := by
        simp only [List.append_assoc]
        exact List.perm_append_comm.append_left _
      exact (((hcall.append (List.Sublist.refl _)).append (List.Sublist.refl _)).cons_cons _).subperm.trans
        (hperm.cons _).subperm

/-- A constructor's allocator declares nothing in its body, and its initializer declares
`Internal` and variables `Tmp_P`, each at most once. -/
theorem innerNames_constructor (stubs : List String) :
    ∀ sub ∈ b.constructor cls s, sub.innerNames.Subperm
      ("Internal" :: ((s.parameters.map (·.name) ++ ["Return"]).map ("Tmp_" ++ ·) ++ stubs)) := by
  have hcall := declaredNames_lowerCall hps rfl none
  intro sub hsub
  simp only [SignatureBuilder.constructor, List.mem_cons, List.not_mem_nil, or_false] at hsub
  rcases hsub with rfl | rfl
  · exact List.nil_subperm
  · simp only [Subprogram.innerNames, List.map_cons, List.map_nil, List.singleton_append]
    exact ((hcall.trans (tmps_sublist s stubs)).cons_cons _).subperm

end Bodies

/-- The method wrapper and the constructor pair of a signature take `Self` first, then the
signature's parameters, by their names. -/
theorem formals_lowered (b : SignatureBuilder) (cls : ClassNames) (s : Signature) :
    ∀ sub ∈ b.method cls s :: b.constructor cls s,
      sub.parameters.map (·.name) = "Self" :: s.parameters.map (·.name) := by
  intro sub hsub
  simp only [SignatureBuilder.constructor, List.mem_cons, List.not_mem_nil, or_false] at hsub
  rcases hsub with rfl | rfl | rfl
  · unfold SignatureBuilder.method
    cases s.returnedType with
    | none => simp [SignatureParam.publicParam, Function.comp_def]
    | some t =>
      dsimp only
      split <;> simp [SignatureParam.publicParam, Function.comp_def]
  · simp [SignatureParam.publicParam, Function.comp_def]
  · simp [SignatureParam.publicParam, Function.comp_def]

/-- The identifiers a subprogram declares, its formals being `Self` and some names, are distinct
exactly when the names are and none of them is `Self` or declared in the body, as long as the
body's identifiers are distinct from `Self` and among themselves whenever the names are. -/
theorem distinctIdents_declaredNames_iff {fold : Char → Char} {sub : Subprogram}
    {names : List String} (hformals : sub.parameters.map (·.name) = "Self" :: names)
    (hinner : DistinctIdents fold names → DistinctIdents fold ("Self" :: sub.innerNames)) :
    DistinctIdents fold sub.declaredNames ↔
      DistinctIdents fold names ∧ ∀ n ∈ names, ∀ i ∈ "Self" :: sub.innerNames, ¬ SameIdent fold n i := by
  have hperm : sub.declaredNames.Perm (names ++ "Self" :: sub.innerNames) := by
    rw [Subprogram.declaredNames, hformals, List.cons_append]
    exact List.perm_middle.symm
  rw [DistinctIdents, hperm.pairwise_iff fun h hs => h hs.symm, List.pairwise_append]
  constructor
  · rintro ⟨hnames, -, hcross⟩
    exact ⟨hnames, hcross⟩
  · rintro ⟨hnames, hcross⟩
    exact ⟨hnames, hinner hnames, hcross⟩

/-- Under a table whose mappings declare no locals, every lowered body declares distinct identifiers
exactly when the parameter names are distinct and none is `Self` or an invented identifier. -/
theorem lowered_bodies_hygienic_iff {fold : Char → Char} (hfold : FoldsAscii fold)
    {b : SignatureBuilder} (htable : b.resolver.table.LocalFree) {c : Callable} {s : Signature}
    (hs : b.build c = .ok s) (cls : ClassNames)
    (hnames : ∀ p ∈ s.parameters, ' ' ∉ p.name.toList ∧ ¬ SameIdent fold p.name "Return") :
    let names := s.parameters.map (·.name)
    ∀ sub ∈ b.method cls s :: b.constructor cls s,
      (∀ i ∈ sub.innerNames,
        i = "Internal" ∨ (∃ n ∈ names ++ ["Return"], i = "Tmp_" ++ n) ∨ ∃ x, i = "Stub_" ++ x) ∧
      (DistinctIdents fold sub.declaredNames ↔
        DistinctIdents fold names ∧ ∀ n ∈ names, ∀ i ∈ "Self" :: sub.innerNames, ¬ SameIdent fold n i) := by
  intro names sub hsub
  obtain ⟨hparams, hreturned⟩ := stubLocals_of_build htable hs
  have hps : ∀ p ∈ s.parameters,
      ' ' ∉ p.name.toList ∧ ∀ ty, p.ty.adaType? = some ty → ty.mapping.toC.localDecl = none :=
    fun p hp => ⟨(hnames p hp).1, fun ty hty => (hparams p hp ty hty).1⟩
  let stubs := (s.returnedType.bind fun t => t.mapping.fromC.localDecl).toList.map declaredName
  have hstubs : ∀ x ∈ stubs, ∃ y, x = "Stub_" ++ y := by
    intro x hx
    obtain ⟨d, hd, rfl⟩ := List.mem_map.1 hx
    obtain ⟨t, ht, hdt⟩ := Option.bind_eq_some_iff.1 (Option.mem_toList.1 hd)
    obtain ⟨y, hy⟩ := (hreturned t ht).2 d hdt
    exact ⟨y, hy⟩
  have hlen : stubs.length ≤ 1 := by
    simp only [stubs, List.length_map]
    cases s.returnedType.bind fun t => t.mapping.fromC.localDecl <;> simp
  have hinner : sub.innerNames.Subperm
      ("Internal" :: ((names ++ ["Return"]).map ("Tmp_" ++ ·) ++ stubs)) := by
    rcases List.mem_cons.1 hsub with rfl | hsub
    · exact innerNames_method b cls hps
    · exact innerNames_constructor b cls hps stubs sub hsub
  refine ⟨fun i hi => ?_, distinctIdents_declaredNames_iff (formals_lowered b cls s sub hsub)
    fun hdistinct => ?_⟩
  · -- every identifier of the body is one the lowering invents
    rcases List.mem_cons.1 (hinner.subset hi) with rfl | hi
    · exact .inl rfl
    rcases List.mem_append.1 hi with hi | hi
    · obtain ⟨n, hn, rfl⟩ := List.mem_map.1 hi
      exact .inr (.inl ⟨n, hn, rfl⟩)
    · exact .inr (.inr (hstubs i hi))
  · have hret : ∀ n ∈ names, ¬ SameIdent fold n "Return" := by
      intro n hn
      obtain ⟨p, hp, rfl⟩ := List.mem_map.1 hn
      exact (hnames p hp).2
    exact (distinct_invented hfold hdistinct hret hlen hstubs).of_subperm ((List.subperm_cons "Self").2 hinner)

/-- `Gtk.Frame.replace_label`, which takes a string and returns a widget: the string goes
through a temporary freed after the call, so the result waits in `Tmp_Return` and comes back
through a stub object. -/
theorem replace_label_bodies_hygienic :
    let b : SignatureBuilder := ⟨⟨⟨"Gtk", Index.empty, []⟩, Naming.new "Gtk", TypeTable.default⟩,
      Registry.empty⟩
    let label : Parameter := ⟨"label", .direct ⟨some "utf8", some "const gchar*"⟩, none⟩
    let c : Callable := ⟨.method, "replace_label", some "gtk_frame_replace_label", [label],
      some (.direct ⟨some "Widget", some "GtkWidget*"⟩), none, none⟩
    let cls := ClassNames.of (Naming.new "Gtk") "Frame"
    FoldsAscii Char.toLower ∧ b.resolver.table.LocalFree ∧
      ∃ s, b.build c = .ok s ∧
        (∀ p ∈ s.parameters, ' ' ∉ p.name.toList ∧ ¬ SameIdent Char.toLower p.name "Return") ∧
        let names := s.parameters.map (·.name)
        ∀ sub ∈ b.method cls s :: b.constructor cls s,
          (∀ i ∈ sub.innerNames,
            i = "Internal" ∨ (∃ n ∈ names ++ ["Return"], i = "Tmp_" ++ n) ∨ ∃ x, i = "Stub_" ++ x) ∧
          (DistinctIdents Char.toLower sub.declaredNames ↔
            DistinctIdents Char.toLower names ∧
              ∀ n ∈ names, ∀ i ∈ "Self" :: sub.innerNames, ¬ SameIdent Char.toLower n i) := by
  intro b label c cls
  have hfold : FoldsAscii Char.toLower := fun _ _ => rfl
  have htable : b.resolver.table.LocalFree := by decide
  refine ⟨hfold, htable, _, rfl, by decide, lowered_bodies_hygienic_iff hfold htable (show b.build c = _ from rfl) cls (by decide)⟩

/-- A parameter named `self` is spelled `Self`, as the object a method wrapper takes first: the
parameters' names are distinct, yet the wrapper of `Gtk.Frame.set_self` declares `Self` twice,
whatever the case folding. -/
theorem self_parameter_clashes :
    let b : SignatureBuilder := ⟨⟨⟨"Gtk", Index.empty, []⟩, Naming.new "Gtk", TypeTable.default⟩,
      Registry.empty⟩
    let self : Parameter := ⟨"self", .direct ⟨some "gint", some "gint"⟩, none⟩
    let c : Callable := ⟨.method, "set_self", some "gtk_frame_set_self", [self], none, none, none⟩
    let cls := ClassNames.of (Naming.new "Gtk") "Frame"
    ∃ s, b.build c = .ok s ∧ s.parameters.map (·.name) = ["Self"] ∧
      (b.method cls s).declaredNames = ["Self", "Self", "Internal"] ∧
      ∀ fold, DistinctIdents fold (s.parameters.map (·.name)) ∧
        ¬ DistinctIdents fold (b.method cls s).declaredNames := by
  intro b self c cls
  refine ⟨_, rfl, by decide, by decide, fun fold => ⟨List.pairwise_singleton _ _, fun h => ?_⟩⟩
  exact (List.pairwise_cons.1 h).1 "Self" (by decide) rfl

end GirAda.Ada
