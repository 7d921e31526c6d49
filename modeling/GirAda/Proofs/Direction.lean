import GirAda.Proofs.Signatures

/-!
# Which parameters the callee writes

A parameter is passed `out` when its descriptor is *pointer-like*: a scalar passed by reference.
Only `direct` makes such scalars, so the direction of a parameter is decided by the branch of
`direct` its type takes: a table entry is passed by reference behind a C pointer unless the
mapping is itself a pointer (strings, untyped pointers); a type the table does not know is passed
by reference behind a C pointer only when it names an enumeration or bitfield of the document;
objects, arrays and types that cannot be bound are never passed by reference.

A C type is a pointer when, blanks at its end aside, it ends with `*` (`isPointerType_iff`).

Main statement: `passed_out_iff`.
-/

namespace GirAda.Ada

open GirAda.Gir GirAda.Text

/-! ## Pointer types -/

section Suffix

variable (blank : Char → Bool)

/-- Past its leading blanks a list starts with `x` exactly when it is blanks, then `x`, then
anything. Stated for any class of blanks, so that no proof computes the class itself. -/
theorem head?_dropWhile_eq_some {x : Char} (hx : blank x = false) (l : List Char) :
    (l.dropWhile blank).head? = some x ↔
      ∃ ws rest, l = ws ++ x :: rest ∧ ∀ w ∈ ws, blank w = true := by
  induction l with
  | nil => simp
  | cons c l ih =>
    by_cases hc : blank c = true
    · -- a leading blank is dropped and joins the blanks in front
      rw [List.dropWhile_cons_of_pos hc, ih]
      constructor
      · rintro ⟨ws, rest, rfl, hws⟩
        exact ⟨c :: ws, rest, rfl, by simpa [hc] using hws⟩
      · rintro ⟨ws, rest, heq, hws⟩
        cases ws with
        | nil =>
          obtain ⟨rfl, -⟩ := List.cons.inj heq
          simp [hx] at hc
        | cons w ws =>
          obtain ⟨rfl, rfl⟩ := List.cons.inj heq
          exact ⟨ws, rest, rfl, fun v hv => hws v (List.mem_cons_of_mem _ hv)⟩
    · -- the first character is not blank, so it is the one the list starts with
      rw [List.dropWhile_cons_of_neg hc, List.head?_cons, Option.some.injEq]
      constructor
      · rintro rfl
        exact ⟨[], l, rfl, by simp⟩
      · rintro ⟨ws, rest, heq, hws⟩
        cases ws with
        | nil => exact (List.cons.inj heq).1
        | cons w ws =>
          obtain ⟨rfl, -⟩ := List.cons.inj heq
          exact absurd (hws c List.mem_cons_self) hc

end Suffix

/-- A C type is a pointer when it is some text, then `*`, then blanks only. -/
theorem isPointerType_iff (c : String) :
    Resolver.isPointerType c = true ↔
      ∃ pre ws, c.toList = pre ++ '*' :: ws ∧ ∀ w ∈ ws, isBlank w = true := by
  have hhead : Resolver.isPointerType c = true ↔
      (c.toList.reverse.dropWhile isBlank).head? = some '*' := by
    unfold Resolver.isPointerType
    split
    · next tail h => simp [h]
    · next h =>
      simp only [Bool.false_eq_true, false_iff]
      intro h'
      obtain ⟨tail, ht⟩ := List.head?_eq_some_iff.1 h'
      exact h tail ht
  rw [hhead, head?_dropWhile_eq_some isBlank (by decide)]
  constructor
  · rintro ⟨ws, rest, heq, hws⟩
    refine ⟨rest.reverse, ws.reverse, ?_, by simpa using hws⟩
    simpa using congrArg List.reverse heq
  · rintro ⟨pre, ws, heq, hws⟩
    exact ⟨ws.reverse, pre.reverse, by simp [heq], by simpa using hws⟩

/-! ## Pointer-like descriptors -/

namespace Descriptor

@[simp] theorem pointerLike_scalar (ty : AdaType) (b : Bool) :
    (Descriptor.scalar ty b).pointerLike = b := by
  cases b <;> rfl

/-- Only a scalar passed by reference is pointer-like: objects, arrays, variable argument lists
and unknown types never are. -/
theorem pointerLike_iff (d : Descriptor) : d.pointerLike = true ↔ ∃ ty, d = .scalar ty true := by
  cases d with
  | scalar ty b => cases b <;> simp
  | object | array | variadic | unknown => simp [pointerLike]

end Descriptor

/-- A parameter is `out` exactly when its type is pointer-like. -/
theorem Mode.forType_eq_outMode_iff (d : Descriptor) :
    Mode.forType d = .outMode ↔ d.pointerLike = true := by
  unfold Mode.forType
  split <;> simp_all

/-- A parameter is `in` exactly when its type is not pointer-like. -/
theorem Mode.forType_eq_inMode_iff (d : Descriptor) :
    Mode.forType d = .inMode ↔ d.pointerLike = false := by
  unfold Mode.forType
  split <;> simp_all

namespace Resolver

/-- `direct` passes a type by reference exactly behind a C pointer, and then for a table entry
that is no pointer itself, or, without a table entry, for a type named after an enumeration or
bitfield of the document. -/
theorem direct_pointerLike_iff (r : Resolver) (t : TypeName) :
    (r.direct t).pointerLike = true ↔
      isPointerType (t.cType.getD "") = true ∧
        ((∃ k m, r.table.lookup t.name t.cType = some (k, m) ∧ m.nativePointer = false) ∨
          (r.table.lookup t.name t.cType = none ∧
            ∃ n, t.name = some n ∧ n ≠ "" ∧ n ≠ "none" ∧ n ∈ r.repository.enumerations)) := by
  obtain ⟨name, cType⟩ := t
  unfold direct
  dsimp only
  split
  · next k m hl => simp [hl]
  · next hl =>
    cases name with
    | none => simp [hl, Descriptor.pointerLike]
    | some n =>
      dsimp only
      split_ifs with hbad henum hobj
      · have : n = "" ∨ n = "none" := by simpa using hbad
        rcases this with rfl | rfl <;> simp [hl, Descriptor.pointerLike]
      · have : n ≠ "" ∧ n ≠ "none" := by simpa using hbad
        simp_all [Repository.isEnumeration]
      · simp_all [Repository.isEnumeration, Descriptor.pointerLike]
      · simp_all [Repository.isEnumeration]

end Resolver

/-- In a built signature each parameter has the mode its document parameter's type calls for, and
keeps it in the public profile and in the imported one. -/
theorem built_parameter_modes {b : SignatureBuilder} {c : Callable} {S : Signature}
    (h : b.build c = .ok S) :
    List.Forall₂ (fun p q => q.mode = Mode.forType (b.resolver.classify p.shape) ∧
        q.publicParam.mode = q.mode ∧ q.foreignParam.mode = q.mode)
      c.parameters S.parameters := by
  obtain ⟨-, hparams, -⟩ := SignatureBuilder.build_eq_ok h
  obtain ⟨-, hmap⟩ := SignatureBuilder.params_eq_ok hparams
  rw [hmap, List.forall₂_map_right_iff, List.forall₂_same]
  intro p _
  simp [SignatureParam.publicParam, SignatureParam.foreignParam]

open Resolver in
/-- A direct type is passed `out` exactly when its C type ends with `*` and the table maps it to no
pointer, or does not know it and it names an enumeration of the document. -/
theorem passed_out_iff (r : Resolver) (t : TypeName) :
    (Mode.forType (r.classify (.direct t)) = .outMode ↔
      (∃ pre ws, (t.cType.getD "").toList = pre ++ '*' :: ws ∧ ∀ w ∈ ws, isBlank w = true) ∧
        ((∃ k m, r.table.lookup t.name t.cType = some (k, m) ∧ m.nativePointer = false) ∨
          (r.table.lookup t.name t.cType = none ∧
            ∃ n, t.name = some n ∧ n ≠ "" ∧ n ≠ "none" ∧ n ∈ r.repository.enumerations))) ∧
    (∀ d : Descriptor, d.pointerLike = true ↔ ∃ ty, d = .scalar ty true) ∧
    (∀ k m, r.table.lookup t.name t.cType = some (k, m) → m.nativePointer = true →
      Mode.forType (r.classify (.direct t)) = .inMode) ∧
    ∀ (b : SignatureBuilder) (c : Callable) (S : Signature), b.build c = .ok S →
      List.Forall₂ (fun p q => q.mode = Mode.forType (b.resolver.classify p.shape) ∧
          q.publicParam.mode = q.mode ∧ q.foreignParam.mode = q.mode)
        c.parameters S.parameters := by
  have hout : Mode.forType (r.classify (.direct t)) = .outMode ↔ _ :=
    (Mode.forType_eq_outMode_iff _).trans
      ((direct_pointerLike_iff r t).trans (and_congr_left' (isPointerType_iff _)))
  refine ⟨hout, Descriptor.pointerLike_iff, fun k m hl hnp => ?_,
    fun _ _ _ => built_parameter_modes⟩
  -- a pointer mapping is neither of the two ways of being passed by reference
  rw [Mode.forType_eq_inMode_iff, Bool.eq_false_iff, Ne, ← Mode.forType_eq_outMode_iff, hout]
  rintro ⟨-, ⟨k', m', hl', hnp'⟩ | ⟨hnone, -⟩⟩
  · rw [hl] at hl'
    cases hl'
    simp [hnp] at hnp'
  · simp [hl] at hnone

end GirAda.Ada
