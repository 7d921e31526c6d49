import GirAda.Proofs.Signatures

/-!
# Three ways to resolve a type

`classify` gives every shape a descriptor; `resolve` keeps the descriptors that can be bound,
`resolveFor` says why a shape cannot be bound, and `resolveReturn` adds the rules of return
values. `resolveFor` reads its reason off the shape while `resolve` reads bindability off the
descriptor. They agree because only a variable argument list classifies to `variadic`: every
branch of `direct` gives a scalar, an object or an unknown type, and every branch of `array` an
array or the unknown type of its element (`direct_spec`, `array_spec`).

The same two lemmas say that names are kept as the document writes them: a type that can be
bound is named by its name, or by its C type when it has none, and keeps its C type as written.

Main statement: `resolution_paths_agree`.
-/

namespace GirAda.Ada

open GirAda.Gir

namespace Resolver

variable (r : Resolver)

/-- A direct type is a scalar or an object of the type as the document writes it, or unknown. -/
theorem direct_spec (t : TypeName) :
    (∃ m b, r.direct t = .scalar ⟨(t.name <|> t.cType).getD "", t.cType.getD "", m⟩ b) ∨
    (∃ m, r.direct t = .object ⟨(t.name <|> t.cType).getD "", t.cType.getD "", m⟩) ∨
    ∃ n, r.direct t = .unknown n := by
  unfold direct
  dsimp only
  split
  · exact .inl ⟨_, _, rfl⟩
  · split
    · split
      · exact .inr (.inr ⟨_, rfl⟩)
      · split
        · exact .inl ⟨_, _, rfl⟩
        · split
          · exact .inr (.inl ⟨_, rfl⟩)
          · exact .inl ⟨_, _, rfl⟩
    · exact .inr (.inr ⟨_, rfl⟩)

/-- An array is an array of the element type as the document writes it, with that type's own
descriptor as element; only when neither the table nor the element give it a mapping is it the
element's descriptor, which then cannot be bound. -/
theorem array_spec (t : TypeName) :
    (∃ m, r.array t = .array ⟨(t.name <|> t.cType).getD "", t.cType.getD "", m⟩ (r.direct t)) ∨
    (r.array t = r.direct t ∧ (r.direct t).adaType? = none) := by
  unfold array
  dsimp only
  split
  · exact .inl ⟨_, rfl⟩
  · split
    · exact .inr ⟨rfl, ‹_›⟩
    · exact .inl ⟨_, rfl⟩

variable {r}

theorem direct_ne_variadic (t : TypeName) : r.direct t ≠ .variadic := by
  rcases r.direct_spec t with ⟨m, b, h⟩ | ⟨m, h⟩ | ⟨n, h⟩ <;> simp [h]

theorem array_ne_variadic (t : TypeName) : r.array t ≠ .variadic := by
  rcases r.array_spec t with ⟨m, h⟩ | ⟨h, -⟩
  · simp [h]
  · rw [h]
    exact direct_ne_variadic t

/-- Only a variable argument list is variadic. -/
theorem classify_eq_variadic_iff {s : Shape} : r.classify s = .variadic ↔ s = .varargs := by
  cases s with
  | direct t => simp [classify, direct_ne_variadic]
  | array c e => cases e <;> simp [classify, array_ne_variadic]
  | varargs => simp [classify]
  | unrecognized x => simp [classify]

/-- A shape resolves for a parameter exactly when it can be bound; otherwise a variable argument
list gives `varargs` and any other shape an unknown type named after the parameter. -/
theorem resolveFor_eq (what : String) (s : Shape) :
    r.resolveFor what s = if (r.classify s).bindable then .ok (r.classify s)
      else .error (if s = .varargs then .varargs else .unknownType what) := by
  by_cases hb : (r.classify s).bindable = true
  · simp [resolveFor, resolve, hb]
  · cases s <;> simp [resolveFor, resolve, hb]

theorem resolveFor_eq_varargs_iff {what : String} {s : Shape} :
    r.resolveFor what s = .error .varargs ↔ s = .varargs := by
  rw [resolveFor_eq]
  constructor
  · intro h
    split at h
    · cases h
    · split at h
      · assumption
      · cases h
  · rintro rfl
    simp [classify, Descriptor.bindable, Descriptor.adaType?]

/-! ## Return values -/

section Returns

variable {s : Shape} (hs : ∀ c, s ≠ .direct ⟨some "none", c⟩)
include hs

/-- Past the two ways of returning nothing, a return value is resolved as a parameter named
`return`, and an array is refused. -/
theorem resolveReturn_some_eq :
    r.resolveReturn (some s) = r.resolveFor "return" s >>= fun d => match d with
      | .array .. => .error .arrayReturn
      | d => .ok (.value d) := by
  unfold resolveReturn
  split
  · contradiction
  · next c h => exact absurd (Option.some.inj h) (hs c)
  · next s' _ h =>
    obtain rfl := Option.some.inj h
    rfl

theorem resolveReturn_some_of_array {ty : AdaType} {e : Descriptor}
    (hd : r.resolveFor "return" s = .ok (.array ty e)) :
    r.resolveReturn (some s) = .error .arrayReturn := by
  rw [resolveReturn_some_eq hs, hd]
  rfl

theorem resolveReturn_some_of_ok {d : Descriptor} (hd : r.resolveFor "return" s = .ok d)
    (hna : ∀ ty e, d ≠ .array ty e) : r.resolveReturn (some s) = .ok (.value d) := by
  rw [resolveReturn_some_eq hs, hd]
  cases d with
  | array ty e => exact absurd rfl (hna ty e)
  | scalar | object | variadic | unknown => rfl

theorem resolveReturn_some_of_error {e : Skip} (he : r.resolveFor "return" s = .error e) :
    r.resolveReturn (some s) = .error e := by
  rw [resolveReturn_some_eq hs, he]
  rfl

/-- An array return value is refused. -/
theorem resolveReturn_eq_arrayReturn_iff :
    r.resolveReturn (some s) = .error .arrayReturn ↔ ∃ ty e, r.classify s = .array ty e := by
  constructor
  · intro h
    cases hd : r.resolveFor "return" s with
    | error e =>
      rw [resolveReturn_some_of_error hs hd, Except.error.injEq] at h
      subst h
      obtain ⟨-, he⟩ := resolveFor_eq_error_iff.1 hd
      split at he <;> cases he
    | ok d =>
      obtain ⟨hclass, -⟩ := resolve_eq_some_iff.1 (resolveFor_eq_ok_iff.1 hd)
      by_cases ha : ∃ ty e, d = .array ty e
      · obtain ⟨ty, e, rfl⟩ := ha
        exact ⟨ty, e, hclass⟩
      · simp only [not_exists] at ha
        rw [resolveReturn_some_of_ok hs hd ha] at h
        cases h
  · rintro ⟨ty, e, h⟩
    have hd : r.resolveFor "return" s = .ok (.array ty e) := by
      rw [resolveFor_eq_ok_iff, resolve_eq_some_iff]
      exact ⟨h, rfl⟩
    exact resolveReturn_some_of_array hs hd

/-- A scalar or object return value is returned as it classifies. -/
theorem resolveReturn_eq_value_iff :
    r.resolveReturn (some s) = .ok (.value (r.classify s)) ↔
      (∃ ty b, r.classify s = .scalar ty b) ∨ ∃ ty, r.classify s = .object ty := by
  cases hd : r.resolveFor "return" s with
  | error e =>
    rw [resolveReturn_some_of_error hs hd]
    have hnone := (resolveFor_eq_error_iff.1 hd).1
    rw [resolve, ite_eq_right_iff] at hnone
    constructor
    · intro h
      cases h
    · rintro (⟨ty, b, h⟩ | ⟨ty, h⟩) <;> simp [h, Descriptor.bindable, Descriptor.adaType?] at hnone
  | ok d =>
    obtain ⟨rfl, hb⟩ := resolve_eq_some_iff.1 (resolveFor_eq_ok_iff.1 hd)
    cases hc : r.classify s with
    | array ty e => simp [resolveReturn_some_of_array hs (hc ▸ hd)]
    | scalar ty b => simp [resolveReturn_some_of_ok hs (hc ▸ hd) (by simp)]
    | object ty => simp [resolveReturn_some_of_ok hs (hc ▸ hd) (by simp)]
    | variadic | unknown => simp [hc, Descriptor.bindable, Descriptor.adaType?] at hb

end Returns

/-- A return value that resolves to a value has a type that can be bound, and is no array. -/
theorem resolveReturn_eq_value {rv : Option Shape} {d : Descriptor}
    (h : r.resolveReturn rv = .ok (.value d)) : d.bindable = true ∧ ∀ ty e, d ≠ .array ty e := by
  cases rv with
  | none => cases h
  | some s =>
    by_cases hnone : ∃ c, s = .direct ⟨some "none", c⟩
    · obtain ⟨c, rfl⟩ := hnone
      cases h
    · have hs : ∀ c, s ≠ .direct ⟨some "none", c⟩ := fun c hc => hnone ⟨c, hc⟩
      cases hd : r.resolveFor "return" s with
      | error e =>
        rw [resolveReturn_some_of_error hs hd] at h
        cases h
      | ok d' =>
        obtain ⟨-, hb⟩ := resolve_eq_some_iff.1 (resolveFor_eq_ok_iff.1 hd)
        by_cases ha : ∃ ty e, d' = .array ty e
        · obtain ⟨ty, e, rfl⟩ := ha
          rw [resolveReturn_some_of_array hs hd] at h
          cases h
        · simp only [not_exists] at ha
          rw [resolveReturn_some_of_ok hs hd ha] at h
          cases h
          exact ⟨hb, ha⟩

/-! ## Kinds and names -/

/-- A direct type classifies to a scalar, an object or an unknown type. -/
theorem classify_direct_kind (t : TypeName) :
    (∃ ty b, r.classify (.direct t) = .scalar ty b) ∨ (∃ ty, r.classify (.direct t) = .object ty) ∨
      ∃ n, r.classify (.direct t) = .unknown n := by
  rcases r.direct_spec t with ⟨m, b, h⟩ | ⟨m, h⟩ | ⟨n, h⟩
  · exact .inl ⟨_, _, h⟩
  · exact .inr (.inl ⟨_, h⟩)
  · exact .inr (.inr ⟨_, h⟩)

/-- An array classifies to an array or an unknown type. -/
theorem classify_array_kind (c : Option String) (e : Option TypeName) :
    (∃ ty el, r.classify (.array c e) = .array ty el) ∨ ∃ n, r.classify (.array c e) = .unknown n := by
  cases e with
  | none => exact .inr ⟨_, rfl⟩
  | some t =>
    rcases r.array_spec t with ⟨m, h⟩ | ⟨h, hnone⟩
    · exact .inl ⟨_, _, h⟩
    · rcases r.direct_spec t with ⟨m, b, h'⟩ | ⟨m, h'⟩ | ⟨n, h'⟩ <;>
        simp only [h', Descriptor.adaType?, reduceCtorEq] at hnone
      exact .inr ⟨n, by simp [classify, h, h']⟩

/-- A direct type that can be bound keeps its native name and C type as written. -/
theorem names_of_direct {t : TypeName} (hb : (r.classify (.direct t)).bindable = true) :
    (r.classify (.direct t)).adaType?.map (·.native) = some ((t.name <|> t.cType).getD "") ∧
      (r.classify (.direct t)).adaType?.map (·.cType) = some (t.cType.getD "") := by
  simp only [classify] at hb ⊢
  rcases r.direct_spec t with ⟨m, b, h⟩ | ⟨m, h⟩ | ⟨n, h⟩ <;>
    simp [h, Descriptor.adaType?, Descriptor.bindable] at hb ⊢

/-- An array keeps the native name and C type of its element type as written, and has that
type's descriptor as element. -/
theorem names_of_array {c : Option String} {t : TypeName} {ty : AdaType} {e : Descriptor}
    (h : r.classify (.array c (some t)) = .array ty e) :
    ty.native = (t.name <|> t.cType).getD "" ∧ ty.cType = t.cType.getD "" ∧
      e = r.classify (.direct t) := by
  simp only [classify] at h ⊢
  rcases r.array_spec t with ⟨m, h'⟩ | ⟨h', -⟩
  · rw [h', Descriptor.array.injEq] at h
    obtain ⟨rfl, rfl⟩ := h
    exact ⟨rfl, rfl, rfl⟩
  · rw [h'] at h
    rcases r.direct_spec t with ⟨m, b, h''⟩ | ⟨m, h''⟩ | ⟨n, h''⟩ <;> simp [h''] at h

end Resolver

/-- The three ways of resolving a shape agree: only a variable argument list is `variadic`, `resolve`
gives exactly the bindable descriptors, and names are kept as the document writes them. -/
theorem resolution_paths_agree (r : Resolver) :
    (∀ s, r.classify s = .variadic ↔ s = .varargs) ∧
    (∀ t, (∃ ty b, r.classify (.direct t) = .scalar ty b) ∨
      (∃ ty, r.classify (.direct t) = .object ty) ∨ ∃ n, r.classify (.direct t) = .unknown n) ∧
    (∀ c e, (∃ ty el, r.classify (.array c e) = .array ty el) ∨
      ∃ n, r.classify (.array c e) = .unknown n) ∧
    (∀ s, r.resolve s = if (r.classify s).bindable then some (r.classify s) else none) ∧
    (∀ what s, (r.classify s).bindable = true → r.resolveFor what s = .ok (r.classify s)) ∧
    (∀ what s, r.resolveFor what s = .error .varargs ↔ s = .varargs) ∧
    (∀ what s, (r.classify s).bindable = false → s ≠ .varargs →
      r.resolveFor what s = .error (.unknownType what)) ∧
    r.resolveReturn none = .ok .void ∧
    (∀ c, r.resolveReturn (some (.direct ⟨some "none", c⟩)) = .ok .void) ∧
    (∀ s, (∀ c, s ≠ .direct ⟨some "none", c⟩) →
      (r.resolveReturn (some s) = .error .arrayReturn ↔ ∃ ty e, r.classify s = .array ty e) ∧
      (r.resolveReturn (some s) = .ok (.value (r.classify s)) ↔
        (∃ ty b, r.classify s = .scalar ty b) ∨ ∃ ty, r.classify s = .object ty)) ∧
    (∀ t, (r.classify (.direct t)).bindable = true →
      (r.classify (.direct t)).adaType?.map (·.native) = some ((t.name <|> t.cType).getD "") ∧
      (r.classify (.direct t)).adaType?.map (·.cType) = some (t.cType.getD "")) ∧
    (∀ c t ty e, r.classify (.array c (some t)) = .array ty e →
      ty.native = (t.name <|> t.cType).getD "" ∧ ty.cType = t.cType.getD "" ∧
        e = r.classify (.direct t)) := by
  refine ⟨fun _ => Resolver.classify_eq_variadic_iff, Resolver.classify_direct_kind,
    Resolver.classify_array_kind, fun _ => rfl, fun what s hb => ?_,
    fun _ _ => Resolver.resolveFor_eq_varargs_iff, fun what s hb hs => ?_, rfl, fun _ => rfl,
    fun s hs => ⟨Resolver.resolveReturn_eq_arrayReturn_iff hs, Resolver.resolveReturn_eq_value_iff hs⟩,
    fun _ => Resolver.names_of_direct, fun _ _ _ _ => Resolver.names_of_array⟩
  · rw [Resolver.resolveFor_eq, if_pos hb]
  · rw [Resolver.resolveFor_eq, if_neg (by simp [hb]), if_neg hs]

end GirAda.Ada
