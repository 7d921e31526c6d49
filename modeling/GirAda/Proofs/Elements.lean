import GirAda.Proofs.Resolution

/-!
# The elements of arrays

`array` gives an array the descriptor of its element type as element, and picks the array's
mapping by another key: the table's own name for the element type, looked up by its name (or its
C type when it has none) and its C type (`Resolver.elementKey`). When the array table maps that key,
the array is bound whatever its element resolved to; only otherwise is the mapping built from the
element's type, and an element that cannot be bound then makes the whole array unknown.

So an element that cannot be bound survives only inside an array the table maps. The two keys do
disagree: a nameless element `<type c:type="utf8"/>` is looked up in the array table as `utf8`,
which maps string arrays, while `direct` knows no type for it (`nameless_string_element_is_unknown`).
Nothing else that cannot be bound reaches a built signature, and no variable argument list does at
any depth.

Main statement: `unknown_only_in_mapped_arrays`.
-/

namespace GirAda.Ada

open GirAda.Gir

/-- The descriptors a descriptor is made of: itself and, for an array, those of its element. -/
def Descriptor.parts : Descriptor → List Descriptor
  | .array ty e => .array ty e :: e.parts
  | .scalar ty b => [.scalar ty b]
  | .object ty => [.object ty]
  | .variadic => [.variadic]
  | .unknown n => [.unknown n]

namespace Resolver

/-- The name an array's element type is filed under in the array table: the table's own name for
the type, looked up by its name (its C type without one) and its C type, else that name itself. -/
def elementKey (r : Resolver) (t : TypeName) : String :=
  match r.table.lookup (some ((t.name <|> t.cType).getD "")) (some (t.cType.getD "")) with
  | some (k, _) => k
  | none => (t.name <|> t.cType).getD ""

variable {r : Resolver}

/-- A direct type is made of itself alone: it is never an array. -/
theorem parts_direct (t : TypeName) : (r.direct t).parts = [r.direct t] := by
  rcases r.direct_spec t with ⟨m, b, h⟩ | ⟨m, h⟩ | ⟨n, h⟩ <;> rw [h] <;> rfl

theorem direct_ne_array (t : TypeName) (ty : AdaType) (e : Descriptor) :
    r.direct t ≠ .array ty e := by
  rcases r.direct_spec t with ⟨m, b, h⟩ | ⟨m, h⟩ | ⟨n, h⟩ <;> simp [h]

/-- An array whose element cannot be bound is mapped by the array table, under the element
type's key, to the array's own mapping. -/
theorem lookupArray_of_unbindable_element {t : TypeName} {ty : AdaType} {e : Descriptor}
    (h : r.array t = .array ty e) (he : e.bindable = false) :
    r.table.lookupArray (r.elementKey t) = some ty.mapping := by
  unfold array at h
  dsimp only at h
  split at h
  · -- a table entry under the element type's key: its mapping is the array's
    next m hm =>
    rw [Descriptor.array.injEq] at h
    rw [← h.1]
    exact hm
  · -- without one, the element must have a type to build the mapping from
    split at h
    · exact absurd h (direct_ne_array t ty e)
    · next ety hety =>
      rw [Descriptor.array.injEq] at h
      rw [← h.2, Descriptor.bindable, hety] at he
      cases he

/-- A descriptor that classifies a shape and can be bound has no variable argument list in it,
and the only part of it that cannot be bound is the element of an array that the array table
maps. -/
theorem parts_classify {s : Shape} (hb : (r.classify s).bindable = true) :
    ∀ x ∈ (r.classify s).parts, x ≠ .variadic ∧
      (x.bindable = false → ∃ ty t, r.classify s = .array ty x ∧ x = r.direct t ∧
        r.table.lookupArray (r.elementKey t) = some ty.mapping) := by
  intro x hx
  have hbound : x.bindable = true → x ≠ .variadic := by
    rintro hxb rfl
    cases hxb
  cases s with
  | direct t =>
    simp only [classify, parts_direct, List.mem_singleton] at hx hb
    subst hx
    exact ⟨hbound hb, fun h => by rw [hb] at h; cases h⟩
  | array c e =>
    cases e with
    | none => cases hb
    | some t =>
      simp only [classify] at hx hb ⊢
      rcases r.array_spec t with ⟨m, h⟩ | ⟨h, hnone⟩
      · rw [h, Descriptor.parts, parts_direct, List.mem_cons, List.mem_singleton] at hx
        rcases hx with rfl | rfl
        · rw [h] at hb
          exact ⟨hbound hb, fun h' => by rw [hb] at h'; cases h'⟩
        · refine ⟨direct_ne_variadic t, fun hxb => ⟨_, t, h, rfl, ?_⟩⟩
          exact lookupArray_of_unbindable_element h hxb
      · rw [h, Descriptor.bindable, hnone] at hb
        cases hb
  | varargs => cases hb
  | unrecognized x => cases hb

end Resolver

/-- With the default table, an array of the nameless element type `<type c:type="utf8"/>` is a
string array whose element is unknown: the array table knows `utf8`, `direct` does not. -/
theorem nameless_string_element_is_unknown :
    (⟨⟨"Gtk", Index.empty, []⟩, Naming.new "Gtk", TypeTable.default⟩ : Resolver).classify
        (.array (some "gchar**") (some ⟨none, some "utf8"⟩)) =
      .array ⟨"utf8", "utf8", TypeTable.stringListMapping⟩ (.unknown "<type c:type=\"utf8\"/>") ∧
    (Descriptor.unknown "<type c:type=\"utf8\"/>").bindable = false :=
  ⟨by decide, rfl⟩

open Resolver in
/-- An array's element is the element type's own descriptor, unbindable only when the array table
maps its key; so no part of a built signature is variadic, and only such an element is unbindable. -/
theorem unknown_only_in_mapped_arrays (r : Resolver) (cType : Option String) (t : TypeName)
    (ty : AdaType) (e : Descriptor) :
    (r.classify (.array cType (some t)) = .array ty e →
      e = r.direct t ∧ e.parts = [e] ∧ e ≠ .variadic ∧
        (e.bindable = false → r.table.lookupArray (r.elementKey t) = some ty.mapping)) ∧
    ∀ (b : SignatureBuilder) (c : Callable) (S : Signature), b.build c = .ok S →
      (∀ q ∈ S.parameters, ∀ x ∈ q.ty.parts, x ≠ .variadic ∧
        (x.bindable = false → ∃ ty t, q.ty = .array ty x ∧ x = b.resolver.direct t ∧
          b.resolver.table.lookupArray (b.resolver.elementKey t) = some ty.mapping)) ∧
      ∀ d, S.returns = .value d → ∀ x ∈ d.parts, x.bindable = true := by
  refine ⟨fun h => ?_, fun b c S hS => ⟨fun q hq => ?_, fun d hd => ?_⟩⟩
  · obtain ⟨-, -, rfl⟩ := names_of_array h
    exact ⟨rfl, parts_direct t, direct_ne_variadic t, lookupArray_of_unbindable_element h⟩
  · -- each parameter's type classifies its document parameter and can be bound
    obtain ⟨-, hparams, -⟩ := SignatureBuilder.build_eq_ok hS
    obtain ⟨hall, hmap⟩ := SignatureBuilder.params_eq_ok hparams
    rw [hmap, List.mem_map] at hq
    obtain ⟨p, hp, rfl⟩ := hq
    obtain ⟨d, hd⟩ := hall p hp
    obtain ⟨hclass, hb⟩ := resolve_eq_some_iff.1 (resolveFor_eq_ok_iff.1 hd)
    rw [SignatureBuilder.ty_paramOf]
    exact parts_classify (hclass ▸ hb)
  · -- a returned type can be bound and is no array, so it is made of itself alone
    obtain ⟨-, -, hvoid, hret⟩ := SignatureBuilder.build_eq_ok hS
    have hk : c.kind ≠ .constructor := fun hk => by simp [hvoid hk] at hd
    obtain ⟨hb, hna⟩ := resolveReturn_eq_value (hd ▸ hret hk)
    intro x hx
    cases d with
    | array ty e => exact absurd rfl (hna ty e)
    | scalar | object | variadic | unknown =>
      simp only [Descriptor.parts, List.mem_singleton] at hx
      exact hx ▸ hb

end GirAda.Ada
