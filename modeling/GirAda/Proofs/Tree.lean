import GirAda.Proofs.Steps
import GirAda.Xml.Parse

/-!
# The tree a document reads as

`Builder.step` is a stack machine: the open elements sit on its stack, innermost first. What it
builds is stated here without the stack, as a grammar over the tokens (`Reads`): in a scope, a run
of tokens reads as a list of complete elements and the character data between them. An element is
an empty-element tag, or a start tag, the content its own scope reads, and an end tag; character
data is kept inside an element and ignored at top level; comments, processing instructions and
document types are skipped.

The machine's state after any prefix of the tokens is described by `Opened`: the prefix read at
top level, then for each open element its start tag and the content read inside it so far. Each
step keeps this description (`Opened.step`), and every description is reached
(`Opened.foldlM_eq_ok`), so the states the machine can be in after a prefix are exactly those
`Opened` allows (`foldlM_eq_ok_iff_opened`).

Main statement: `parse_builds_document_tree`.
-/

namespace GirAda.Xml

open GirAda.Text

/-- Comments, processing instructions and document types: tokens that carry no content. -/
def Token.Inert : Token → Prop
  | .comment _ | .instruction _ | .doctype _ => True
  | .text _ | .cdata _ | .start _ | .empty _ | .close _ => False

/-- Character data: text and CDATA sections. -/
def Token.CharData : Token → Prop
  | .text _ | .cdata _ => True
  | .start _ | .empty _ | .close _ | .comment _ | .instruction _ | .doctype _ => False

/-- `Reads inside sc toks kids text`: in the scope `sc`, the tokens `toks` read as the complete
elements `kids`, in order, with the character data `text` between them. Inside an element text
is decoded and kept, with CDATA sections as they are; at top level (`inside = false`) character
data is ignored. An element's own content is read in the scope its start tag opens. -/
inductive Reads : Bool → Scope → List (Nat × Token) → List Element → String → Prop
  | nil {inside : Bool} {sc : Scope} : Reads inside sc [] [] ""
  | text {sc : Scope} {toks : List (Nat × Token)} {kids : List Element} {text : String}
      {pos : Nat} {raw t : String} :
      Reads true sc toks kids text → decode raw = .ok t →
      Reads true sc (toks ++ [(pos, .text raw)]) kids (text ++ t)
  | cdata {sc : Scope} {toks : List (Nat × Token)} {kids : List Element} {text : String}
      {pos : Nat} {raw : String} :
      Reads true sc toks kids text → Reads true sc (toks ++ [(pos, .cdata raw)]) kids (text ++ raw)
  | outside {sc : Scope} {toks : List (Nat × Token)} {kids : List Element} {text : String}
      {pos : Nat} {tok : Token} :
      Reads false sc toks kids text → tok.CharData → Reads false sc (toks ++ [(pos, tok)]) kids text
  | inert {inside : Bool} {sc : Scope} {toks : List (Nat × Token)} {kids : List Element}
      {text : String} {pos : Nat} {tok : Token} :
      Reads inside sc toks kids text → tok.Inert → Reads inside sc (toks ++ [(pos, tok)]) kids text
  | empty {inside : Bool} {sc sc' : Scope} {toks : List (Nat × Token)} {kids : List Element}
      {text : String} {pos : Nat} {tag : String} {e : Element} :
      Reads inside sc toks kids text → sc.enter tag = .ok sc' → openElement pos sc' tag = .ok e →
      Reads inside sc (toks ++ [(pos, .empty tag)]) (kids ++ [e]) text
  | full {inside : Bool} {sc sc' : Scope} {toks : List (Nat × Token)} {kids : List Element}
      {text : String} {pos : Nat} {tag : String} {e : Element} {body : List (Nat × Token)}
      {ckids : List Element} {ctext : String} {pos' : Nat} {name : String} :
      Reads inside sc toks kids text → sc.enter tag = .ok sc' → openElement pos sc' tag = .ok e →
      Reads true sc' body ckids ctext →
      Reads inside sc (toks ++ (pos, .start tag) :: (body ++ [(pos', .close name)]))
        (kids ++ [⟨e.name, e.attributes, ckids, ctext⟩]) text

/-- `Opened p stack sc root`: the tokens `p` are a document read up to inside the open elements
`stack`, innermost first. The tokens start with a top-level part that reads as `root` (when
closed already); then, for each open element from the outermost, come its start tag and what its
content reads as so far, which the element on the stack holds. `sc` is the scope in force. -/
inductive Opened : List (Nat × Token) → List Element → Scope → Option Element → Prop
  | top {p : List (Nat × Token)} {root : Option Element} :
      Reads false Scope.initial p root.toList "" → Opened p [] Scope.initial root
  | push {p : List (Nat × Token)} {stack : List Element} {sc sc' : Scope} {root : Option Element}
      {pos : Nat} {tag : String} {e : Element} {body : List (Nat × Token)} {kids : List Element}
      {text : String} :
      Opened p stack sc root → sc.enter tag = .ok sc' → openElement pos sc' tag = .ok e →
      Reads true sc' body kids text →
      Opened (p ++ (pos, .start tag) :: body) (⟨e.name, e.attributes, kids, text⟩ :: stack) sc' root

/-! ## Opening and closing a scope -/

/-- Leaving the scope a start tag entered gives back the scope it was entered from. -/
theorem Scope.leave_of_enter {sc sc' : Scope} {tag : String} (h : sc.enter tag = .ok sc') :
    sc'.leave = sc := by
  unfold Scope.enter at h
  obtain ⟨frame, -, h⟩ := bind_eq_ok_iff.1 h
  cases h
  rfl

/-- An element a tag opens has no children and no content yet. -/
theorem openElement_fresh {pos : Nat} {sc : Scope} {tag : String} {e : Element}
    (h : openElement pos sc tag = .ok e) : e = ⟨e.name, e.attributes, [], ""⟩ := by
  unfold openElement at h
  obtain ⟨ns, -, h⟩ := bind_eq_ok_iff.1 h
  obtain ⟨rs, -, h⟩ := bind_eq_ok_iff.1 h
  split at h
  · cases h
  · cases h
    rfl

/-! ## One step keeps the description -/

namespace Opened

variable {p : List (Nat × Token)} {stack : List Element} {sc : Scope} {root : Option Element}

/-- At top level, reading more tokens is reading more of the top-level part. -/
theorem extend_top {p' : List (Nat × Token)} {root' : Option Element} (h : Opened p [] sc root)
    (hr : Reads false sc p root.toList "" → Reads false sc p' root'.toList "") :
    Opened p' [] sc root' := by
  cases h with
  | top hp => exact top (hr hp)

/-- Inside an element, reading more tokens is reading more of the innermost element's content. -/
theorem extend {x x' : Element} {more : List (Nat × Token)} (h : Opened p (x :: stack) sc root)
    (hname : x'.name = x.name) (hattrs : x'.attributes = x.attributes)
    (hr : ∀ {body}, Reads true sc body x.children x.content →
      Reads true sc (body ++ more) x'.children x'.content) :
    Opened (p ++ more) (x' :: stack) sc root := by
  cases h with
  | push hp henter hopen hbody =>
    obtain ⟨name, attrs, kids, text⟩ := x'
    dsimp only at hname hattrs hr
    subst hname hattrs
    rw [List.append_assoc, List.cons_append]
    exact push hp henter hopen (hr hbody)

/-- A token that carries no content is read wherever it stands. -/
theorem inert {pos : Nat} {tok : Token} (h : Opened p stack sc root) (ht : tok.Inert) :
    Opened (p ++ [(pos, tok)]) stack sc root := by
  cases stack with
  | nil => exact h.extend_top (fun hr => hr.inert ht)
  | cons x rest => exact h.extend rfl rfl (fun hr => hr.inert ht)

variable {b' : Builder} {pos : Nat}

theorem step_text {raw : String} (h : Opened p stack sc root)
    (hs : Builder.step ⟨stack, root, sc⟩ (pos, .text raw) = .ok b') :
    Opened (p ++ [(pos, .text raw)]) b'.stack b'.scope b'.root := by
  cases stack with
  | nil =>
    -- outside every element text is not even decoded
    cases hs
    exact h.extend_top (fun hr => hr.outside trivial)
  | cons x rest =>
    simp only [Builder.step] at hs
    split at hs
    · cases hs
    · next t hdec =>
      cases hs
      exact h.extend rfl rfl (fun hr => hr.text hdec)

theorem step_cdata {raw : String} (h : Opened p stack sc root)
    (hs : Builder.step ⟨stack, root, sc⟩ (pos, .cdata raw) = .ok b') :
    Opened (p ++ [(pos, .cdata raw)]) b'.stack b'.scope b'.root := by
  cases hs
  cases stack with
  | nil => exact h.extend_top (fun hr => hr.outside trivial)
  | cons x rest => exact h.extend rfl rfl (fun hr => hr.cdata)

theorem step_start {tag : String} (h : Opened p stack sc root)
    (hs : Builder.step ⟨stack, root, sc⟩ (pos, .start tag) = .ok b') :
    Opened (p ++ [(pos, .start tag)]) b'.stack b'.scope b'.root := by
  obtain ⟨sc', henter, hs⟩ := bind_eq_ok_iff.1 hs
  obtain ⟨e, hopen, hs⟩ := bind_eq_ok_iff.1 hs
  cases hs
  rw [mapError_eq_ok_iff] at henter
  rw [openElement_fresh hopen]
  exact h.push henter hopen .nil

theorem step_empty {tag : String} (h : Opened p stack sc root)
    (hs : Builder.step ⟨stack, root, sc⟩ (pos, .empty tag) = .ok b') :
    Opened (p ++ [(pos, .empty tag)]) b'.stack b'.scope b'.root := by
  obtain ⟨sc', henter, hs⟩ := bind_eq_ok_iff.1 hs
  obtain ⟨e, hopen, hs⟩ := bind_eq_ok_iff.1 hs
  obtain ⟨b'', hattach, hs⟩ := bind_eq_ok_iff.1 hs
  cases hs
  rw [mapError_eq_ok_iff] at henter
  cases stack with
  | nil =>
    -- at top level the element becomes the root, which must not be there yet
    cases root with
    | none =>
      cases hattach
      rw [Scope.leave_of_enter henter]
      exact h.extend_top (fun hr => hr.empty henter hopen)
    | some r => cases hattach
  | cons x rest =>
    cases hattach
    rw [Scope.leave_of_enter henter]
    exact h.extend rfl rfl (fun hr => hr.empty henter hopen)

theorem step_close {name : String} (h : Opened p stack sc root)
    (hs : Builder.step ⟨stack, root, sc⟩ (pos, .close name) = .ok b') :
    Opened (p ++ [(pos, .close name)]) b'.stack b'.scope b'.root := by
  cases stack with
  | nil => cases hs
  | cons x es =>
    obtain ⟨b'', hattach, hs⟩ := bind_eq_ok_iff.1 hs
    cases hs
    -- the closed element was opened by a start tag, in the scope the end tag goes back to
    cases h with
    | push hp henter hopen hbody =>
      rw [List.append_assoc, List.cons_append]
      cases es with
      | nil =>
        cases root with
        | none =>
          cases hattach
          rw [Scope.leave_of_enter henter]
          exact hp.extend_top (fun hr => hr.full henter hopen hbody)
        | some r => cases hattach
      | cons y rest =>
        cases hattach
        rw [Scope.leave_of_enter henter]
        exact hp.extend rfl rfl (fun hr => hr.full henter hopen hbody)

/-- Each step the machine takes keeps the description of its state. -/
theorem step {b b' : Builder} (h : Opened p b.stack b.scope b.root) (t : Nat × Token)
    (hs : b.step t = .ok b') : Opened (p ++ [t]) b'.stack b'.scope b'.root := by
  obtain ⟨stack, root, sc⟩ := b
  obtain ⟨pos, tok⟩ := t
  cases tok with
  | text raw => exact step_text h hs
  | cdata raw => exact step_cdata h hs
  | start tag => exact step_start h hs
  | empty tag => exact step_empty h hs
  | close name => exact step_close h hs
  | comment body | instruction body | doctype body =>
    cases hs
    exact h.inert trivial

end Opened

/-! ## Every description is reached -/

namespace Builder

/-- Comments, processing instructions and document types leave the state as it is. -/
theorem step_inert (b : Builder) (pos : Nat) {tok : Token} (ht : tok.Inert) :
    b.step (pos, tok) = .ok b := by
  cases tok <;> first | rfl | exact ht.elim

theorem step_start_ok {stack : List Element} {root : Option Element} {sc sc' : Scope} {pos : Nat}
    {tag : String} {e : Element} (henter : sc.enter tag = .ok sc')
    (hopen : openElement pos sc' tag = .ok e) :
    step ⟨stack, root, sc⟩ (pos, .start tag) = .ok ⟨e :: stack, root, sc'⟩ := by
  simp [step, henter, hopen, Except.mapError, pure, Except.pure]

/-- Outside every element character data leaves the state as it is. -/
theorem step_charData_top (root : Option Element) (sc : Scope) (pos : Nat) {tok : Token}
    (ht : tok.CharData) : step ⟨[], root, sc⟩ (pos, tok) = .ok ⟨[], root, sc⟩ := by
  cases tok <;> first | rfl | exact ht.elim

end Builder

/-- Inside an open element, tokens that read as elements and text add them to that element. -/
theorem Reads.foldlM_inside {inside : Bool} {sc : Scope} {toks : List (Nat × Token)}
    {kids : List Element} {text : String} (h : Reads inside sc toks kids text) :
    inside = true → ∀ (x : Element) (stack : List Element) (root : Option Element),
      toks.foldlM Builder.step ⟨x :: stack, root, sc⟩ =
        .ok ⟨⟨x.name, x.attributes, x.children ++ kids, x.content ++ text⟩ :: stack, root, sc⟩ := by
  induction h with
  | nil =>
    intro _ x stack root
    cases x
    simp [pure, Except.pure]
  | text h hdec ih =>
    intro hin x stack root
    rw [List.foldlM_append, ih hin]
    simp [Builder.step, hdec, Builder.addText, bind, Except.bind, pure, Except.pure,
      String.append_assoc]
  | cdata h ih =>
    intro hin x stack root
    rw [List.foldlM_append, ih hin]
    simp [Builder.step, Builder.addText, bind, Except.bind, pure, Except.pure, String.append_assoc]
  | outside => intro hin; cases hin
  | inert h ht ih =>
    intro hin x stack root
    rw [List.foldlM_append, ih hin]
    simp [Builder.step_inert _ _ ht, bind, Except.bind, pure, Except.pure]
  | empty h henter hopen ih =>
    intro hin x stack root
    rw [List.foldlM_append, ih hin]
    simp [Builder.step, henter, hopen, Except.mapError, Builder.attach, bind, Except.bind, pure,
      Except.pure]
    exact Scope.leave_of_enter henter
  | full h henter hopen hbody ih ihbody =>
    intro hin x stack root
    rw [List.foldlM_append, ih hin, ok_bind, List.foldlM_cons, Builder.step_start_ok henter hopen,
      ok_bind, List.foldlM_append, ihbody rfl, ok_bind, openElement_fresh hopen]
    simp [Builder.step, Builder.attach, bind, Except.bind, pure, Except.pure,
      Scope.leave_of_enter henter]

/-- A start tag and the content its scope reads push the element they make, filled. -/
theorem Reads.foldlM_opened {sc sc' : Scope} {pos : Nat} {tag : String} {e : Element}
    {body : List (Nat × Token)} {kids : List Element} {text : String}
    (henter : sc.enter tag = .ok sc') (hopen : openElement pos sc' tag = .ok e)
    (hbody : Reads true sc' body kids text) (stack : List Element) (root : Option Element) :
    ((pos, .start tag) :: body).foldlM Builder.step ⟨stack, root, sc⟩ =
      .ok ⟨⟨e.name, e.attributes, kids, text⟩ :: stack, root, sc'⟩ := by
  rw [List.foldlM_cons, Builder.step_start_ok henter hopen, ok_bind, hbody.foldlM_inside rfl,
    openElement_fresh hopen]
  simp

/-- At top level, tokens that read as at most one element leave it as the root; the state is
otherwise as it starts. -/
theorem Reads.foldlM_top {inside : Bool} {sc : Scope} {toks : List (Nat × Token)}
    {kids : List Element} {text : String} (h : Reads inside sc toks kids text) :
    inside = false → sc = Scope.initial → kids.length ≤ 1 →
      toks.foldlM Builder.step Builder.initial = .ok ⟨[], kids.head?, Scope.initial⟩ := by
  induction h with
  | nil => intros; rfl
  | text | cdata => intro hin; cases hin
  | outside h hc ih =>
    intro hin hsc hk
    rw [List.foldlM_append, ih hin hsc hk, ok_bind]
    simp [Builder.step_charData_top _ _ _ hc, pure, Except.pure]
  | inert h ht ih =>
    intro hin hsc hk
    rw [List.foldlM_append, ih hin hsc hk, ok_bind]
    simp [Builder.step_inert _ _ ht, pure, Except.pure]
  | empty h henter hopen ih =>
    intro hin hsc hk
    subst hsc
    obtain rfl : _ = [] := List.length_eq_zero_iff.1 (by simpa using hk)
    rw [List.foldlM_append, ih hin rfl (by simp), ok_bind]
    simp [Builder.step, henter, hopen, Except.mapError, Builder.attach, pure, Except.pure,
      Scope.leave_of_enter henter]
  | full h henter hopen hbody ih _ =>
    intro hin hsc hk
    subst hsc
    obtain rfl : _ = [] := List.length_eq_zero_iff.1 (by simpa using hk)
    rw [List.foldlM_append, ih hin rfl (by simp), ok_bind, ← List.cons_append, List.foldlM_append,
      Reads.foldlM_opened henter hopen hbody, ok_bind]
    simp [Builder.step, Builder.attach, pure, Except.pure, Scope.leave_of_enter henter]

namespace Opened

/-- Every state `Opened` describes is the one the machine reaches. -/
theorem foldlM_eq_ok {p : List (Nat × Token)} {stack : List Element} {sc : Scope}
    {root : Option Element} (h : Opened p stack sc root) :
    p.foldlM Builder.step Builder.initial = .ok ⟨stack, root, sc⟩ := by
  induction h with
  | @top p root hr =>
    rw [hr.foldlM_top rfl rfl (by cases root <;> simp)]
    cases root <;> rfl
  | push hp henter hopen hbody ih =>
    rw [List.foldlM_append, ih, ok_bind, Reads.foldlM_opened henter hopen hbody]

/-- Every state the machine reaches is described by `Opened`. -/
theorem of_foldlM {toks : List (Nat × Token)} {b : Builder}
    (h : toks.foldlM Builder.step Builder.initial = .ok b) : Opened toks b.stack b.scope b.root := by
  have hstart : Opened [] Builder.initial.stack Builder.initial.scope Builder.initial.root :=
    top .nil
  simpa using foldlM_invariant (fun p b => Opened p b.stack b.scope b.root)
    (fun _ t _ _ hb hs => hb.step t hs) toks hstart h

end Opened

/-- The states the machine can be in after the tokens `toks` are exactly those `Opened` allows. -/
theorem foldlM_eq_ok_iff_opened {toks : List (Nat × Token)} {b : Builder} :
    toks.foldlM Builder.step Builder.initial = .ok b ↔ Opened toks b.stack b.scope b.root :=
  ⟨Opened.of_foldlM, fun h => h.foldlM_eq_ok⟩

/-! ## Errors -/

/-- The errors a token raises where it stands: a reading fault, a malformed attribute, an
undeclared prefix, an element closed where none may be. The others are raised once every token is
read, or by what reads the tree afterwards. -/
def ParseError.OfToken : ParseError → Prop
  | .read _ _ | .malformedAttribute _ _ | .unboundPrefix _ | .unexpectedEnd _ => True
  | .unclosed _ | .noRoot | .unexpectedRoot _ _ | .missingNamespace | .missingAttribute _ _ => False

/-- A prefix fails exactly when it is neither declared nor `xml`, and the error names the whole
name. -/
theorem namespaceOf_eq_error_iff {raw : String} {res : Resolution} {e : ParseError} :
    namespaceOf raw res = .error e ↔
      ∃ q, res = .unknown q ∧ q ≠ "xml" ∧ e = .unboundPrefix raw := by
  cases res with
  | bound u => simp [namespaceOf]
  | unbound => simp [namespaceOf]
  | unknown q =>
    simp only [namespaceOf]
    split
    · next hq =>
      rw [beq_iff_eq] at hq
      simp [hq]
    · next hq =>
      rw [beq_iff_eq] at hq
      simp [hq, eq_comm]

theorem resolveAttributes_error {pos : Nat} {sc : Scope} {attrs : List RawAttribute}
    {e : ParseError} (h : resolveAttributes pos sc attrs = .error e) : e.OfToken := by
  induction attrs with
  | nil => cases h
  | cons a as ih =>
    unfold resolveAttributes at h
    split at h
    · exact ih h
    · -- the value is decoded before the prefix is looked up
      split at h
      split at h
      · cases h
        trivial
      · rcases bind_eq_error_iff.1 h with h | ⟨ns, -, h⟩
        · obtain ⟨q, -, -, rfl⟩ := namespaceOf_eq_error_iff.1 h
          trivial
        · rcases bind_eq_error_iff.1 h with h | ⟨rest, -, h⟩
          · exact ih h
          · cases h

theorem openElement_error {pos : Nat} {sc : Scope} {tag : String} {e : ParseError}
    (h : openElement pos sc tag = .error e) : e.OfToken := by
  unfold openElement at h
  rcases bind_eq_error_iff.1 h with h | ⟨ns, -, h⟩
  · obtain ⟨q, -, -, rfl⟩ := namespaceOf_eq_error_iff.1 h
    trivial
  · rcases bind_eq_error_iff.1 h with h | ⟨rs, -, h⟩
    · exact resolveAttributes_error h
    · split at h
      · cases h
        trivial
      · cases h

namespace Builder

theorem attach_error {b : Builder} {x : Element} {e : ParseError} (h : b.attach x = .error e) :
    e.OfToken := by
  unfold attach at h
  split at h
  · cases h
  · split at h
    · cases h
    · cases h
      trivial

/-- Each step fails only with an error of the token it takes. -/
theorem step_error {b : Builder} {t : Nat × Token} {e : ParseError} (h : b.step t = .error e) :
    e.OfToken := by
  have hopen : ∀ {pos tag} {α} {k : Scope → Element → Except ParseError α},
      (do
        let scope ← (b.scope.enter tag).mapError (fun f => ParseError.read pos (.binding f))
        let e ← openElement pos scope tag
        k scope e) = .error e →
      e.OfToken ∨ ∃ sc x, k sc x = .error e := by
    intro pos tag α k h
    rcases bind_eq_error_iff.1 h with h | ⟨sc, -, h⟩
    · obtain ⟨f, -, rfl⟩ := mapError_eq_error_iff.1 h
      exact .inl trivial
    · rcases bind_eq_error_iff.1 h with h | ⟨x, -, h⟩
      · exact .inl (openElement_error h)
      · exact .inr ⟨sc, x, h⟩
  obtain ⟨pos, tok⟩ := t
  cases tok with
  | text raw =>
    simp only [step] at h
    split at h
    · cases h
    · split at h
      · cases h
        trivial
      · cases h
  | cdata | comment | instruction | doctype => cases h
  | start tag =>
    rcases hopen h with h | ⟨sc, x, h⟩
    · exact h
    · cases h
  | empty tag =>
    rcases hopen h with h | ⟨sc, x, h⟩
    · exact h
    · rcases bind_eq_error_iff.1 h with h | ⟨b', -, h⟩
      · exact attach_error h
      · cases h
  | close name =>
    simp only [step] at h
    split at h
    · cases h
      trivial
    · rcases bind_eq_error_iff.1 h with h | ⟨b', -, h⟩
      · exact attach_error h
      · cases h

theorem foldlM_error {toks : List (Nat × Token)} {b : Builder} {e : ParseError}
    (h : toks.foldlM step b = .error e) : e.OfToken := by
  obtain ⟨_, _, _, _, _, _, hstep⟩ := foldlM_eq_error_iff.1 h
  exact step_error hstep

theorem finish_eq_ok_iff {b : Builder} {r : Element} :
    b.finish = .ok r ↔ b.stack = [] ∧ b.root = some r := by
  obtain ⟨stack, root, sc⟩ := b
  cases stack <;> cases root <;> simp [finish]

theorem finish_eq_unclosed_iff {b : Builder} {n : String} :
    b.finish = .error (.unclosed n) ↔ ∃ x rest, b.stack = x :: rest ∧ n = x.name.render := by
  obtain ⟨stack, root, sc⟩ := b
  cases stack <;> cases root <;> simp [finish, eq_comm]

theorem finish_eq_noRoot_iff {b : Builder} : b.finish = .error .noRoot ↔ b.stack = [] ∧ b.root = none := by
  obtain ⟨stack, root, sc⟩ := b
  cases stack <;> cases root <;> simp [finish]

end Builder

/-- A list with an element added at its end has two elements or more: either the one added is the
second, or both were there before. -/
private theorem cons_cons_of_append_singleton {l rest : List Element} {e a b : Element}
    (h : l ++ [e] = a :: b :: rest) : (l = [a] ∧ e = b) ∨ ∃ l', l = a :: b :: l' := by
  rcases l with _ | ⟨x, _ | ⟨y, l'⟩⟩
  · simp at h
  · obtain ⟨rfl, rfl, -⟩ : x = a ∧ e = b ∧ [] = rest := by simpa using h
    exact .inl ⟨rfl, rfl⟩
  · obtain ⟨rfl, rfl, -⟩ : x = a ∧ y = b ∧ l' ++ [e] = rest := by simpa using h
    exact .inr ⟨l', rfl⟩

/-- A second element at top level fails, with its own name, once it closes. -/
theorem Reads.foldlM_second_root {inside : Bool} {sc : Scope} {toks : List (Nat × Token)}
    {kids : List Element} {text : String} (h : Reads inside sc toks kids text) :
    inside = false → sc = Scope.initial → ∀ r₁ r₂ rest, kids = r₁ :: r₂ :: rest →
      toks.foldlM Builder.step Builder.initial = .error (.unexpectedEnd r₂.name.render) := by
  induction h with
  | nil =>
    intro _ _ r₁ r₂ rest hk
    cases hk
  | text | cdata => intro hin; cases hin
  | outside h hc ih =>
    intro hin hsc r₁ r₂ rest hk
    rw [List.foldlM_append, ih hin hsc r₁ r₂ rest hk, error_bind]
  | inert h ht ih =>
    intro hin hsc r₁ r₂ rest hk
    rw [List.foldlM_append, ih hin hsc r₁ r₂ rest hk, error_bind]
  | empty h henter hopen ih =>
    intro hin hsc r₁ r₂ rest hk
    subst hsc
    rcases cons_cons_of_append_singleton hk with ⟨rfl, rfl⟩ | ⟨ks, rfl⟩
    · rw [List.foldlM_append, h.foldlM_top hin rfl (by simp), ok_bind]
      simp [Builder.step, henter, hopen, Except.mapError, Builder.attach]
    · rw [List.foldlM_append, ih hin rfl r₁ r₂ ks rfl, error_bind]
  | full h henter hopen hbody ih _ =>
    intro hin hsc r₁ r₂ rest hk
    subst hsc
    rcases cons_cons_of_append_singleton hk with ⟨rfl, rfl⟩ | ⟨ks, rfl⟩
    · rw [List.foldlM_append, h.foldlM_top hin rfl (by simp), ok_bind, ← List.cons_append,
        List.foldlM_append, Reads.foldlM_opened henter hopen hbody, ok_bind]
      simp [Builder.step, Builder.attach]
    · rw [List.foldlM_append, ih hin rfl r₁ r₂ ks rfl, error_bind]

theorem Opened.nil_iff {p : List (Nat × Token)} {sc : Scope} {root : Option Element} :
    Opened p [] sc root ↔ sc = Scope.initial ∧ Reads false Scope.initial p root.toList "" := by
  constructor
  · rintro ⟨hr⟩
    exact ⟨rfl, hr⟩
  · rintro ⟨rfl, hr⟩
    exact .top hr

/-! ## Reading a document -/

section Parse

variable {s : String}

theorem parse_of_fault_none (hf : (scan s).fault = none) :
    Element.parse s = (scan s).tokens.foldlM Builder.step Builder.initial >>= Builder.finish := by
  simp only [Element.parse, hf]

theorem parse_of_fault_some {pos : Nat} {f : ReadError} (hf : (scan s).fault = some (pos, f)) :
    Element.parse s =
      (scan s).tokens.foldlM Builder.step Builder.initial >>= fun _ => .error (.read pos f) := by
  simp only [Element.parse, hf]

/-- A token that fails decides the error, whatever follows. -/
theorem parse_of_foldlM_error {e : ParseError}
    (h : (scan s).tokens.foldlM Builder.step Builder.initial = .error e) :
    Element.parse s = .error e := by
  simp only [Element.parse, h, error_bind]

/-- An error that no token raises comes at the end of a document whose tokens all read. -/
theorem parse_error_at_end {e : ParseError} (h : Element.parse s = .error e) (he : ¬ e.OfToken) :
    (scan s).fault = none ∧
      ∃ b, (scan s).tokens.foldlM Builder.step Builder.initial = .ok b ∧ b.finish = .error e := by
  cases hf : (scan s).fault with
  | some pf =>
    obtain ⟨pos, f⟩ := pf
    rw [parse_of_fault_some hf] at h
    rcases bind_eq_error_iff.1 h with h | ⟨_, -, h⟩
    · exact absurd (Builder.foldlM_error h) he
    · cases h
      exact absurd trivial he
  | none =>
    rw [parse_of_fault_none hf] at h
    rcases bind_eq_error_iff.1 h with h | ⟨b, hb, h⟩
    · exact absurd (Builder.foldlM_error h) he
    · exact ⟨rfl, b, hb, h⟩

/-- A document reads as `r` exactly when its tokens stop without a fault and read, at top level,
as the one element `r`. -/
theorem parse_eq_ok_iff {r : Element} :
    Element.parse s = .ok r ↔
      (scan s).fault = none ∧ Reads false Scope.initial (scan s).tokens [r] "" := by
  constructor
  · intro h
    cases hf : (scan s).fault with
    | some pf =>
      obtain ⟨pos, f⟩ := pf
      rw [parse_of_fault_some hf, bind_eq_ok_iff] at h
      obtain ⟨_, -, h⟩ := h
      cases h
    | none =>
      rw [parse_of_fault_none hf, bind_eq_ok_iff] at h
      obtain ⟨b, hb, hfin⟩ := h
      obtain ⟨hstack, hroot⟩ := Builder.finish_eq_ok_iff.1 hfin
      have hopen := Opened.of_foldlM hb
      rw [hstack, hroot, Opened.nil_iff] at hopen
      exact ⟨rfl, hopen.2⟩
  · rintro ⟨hf, hr⟩
    rw [parse_of_fault_none hf, (show Opened _ [] Scope.initial (some r) from .top hr).foldlM_eq_ok]
    rfl

/-- The errors a token raises are those of the first token that fails after the ones before it
read, or, when all read, of the fault that stopped the tokens. -/
theorem parse_eq_error_of_token_iff {e : ParseError} :
    Element.parse s = .error e ∧ e.OfToken ↔
      (∃ pre t post, ∃ b : Builder, (scan s).tokens = pre ++ t :: post ∧
        Opened pre b.stack b.scope b.root ∧ b.step t = .error e) ∨
      (∃ stack sc root, Opened (scan s).tokens stack sc root) ∧
        ∃ pos f, (scan s).fault = some (pos, f) ∧ e = .read pos f := by
  constructor
  · rintro ⟨h, he⟩
    cases hfold : (scan s).tokens.foldlM Builder.step Builder.initial with
    | error e' =>
      rw [parse_of_foldlM_error hfold] at h
      cases h
      obtain ⟨pre, t, post, b, htoks, hpre, hstep⟩ := foldlM_eq_error_iff.1 hfold
      exact .inl ⟨pre, t, post, b, htoks, foldlM_eq_ok_iff_opened.1 hpre, hstep⟩
    | ok b =>
      cases hf : (scan s).fault with
      | some pf =>
        obtain ⟨pos, f⟩ := pf
        rw [parse_of_fault_some hf, hfold, ok_bind] at h
        cases h
        exact .inr ⟨⟨b.stack, b.scope, b.root, foldlM_eq_ok_iff_opened.1 hfold⟩, pos, f, rfl, rfl⟩
      | none =>
        rw [parse_of_fault_none hf, hfold, ok_bind] at h
        obtain ⟨stack, root, sc⟩ := b
        cases stack <;> cases root <;> cases h <;> exact he.elim
  · rintro (⟨pre, t, post, b, htoks, hpre, hstep⟩ | ⟨⟨stack, sc, root, hopen⟩, pos, f, hf, rfl⟩)
    · have hfold : (scan s).tokens.foldlM Builder.step Builder.initial = .error e :=
        foldlM_eq_error_iff.2 ⟨pre, t, post, b, htoks, foldlM_eq_ok_iff_opened.2 hpre, hstep⟩
      exact ⟨parse_of_foldlM_error hfold, Builder.step_error hstep⟩
    · rw [parse_of_fault_some hf, hopen.foldlM_eq_ok]
      exact ⟨rfl, trivial⟩

/-- A document whose tokens all read but leave an element open fails naming the innermost one. -/
theorem parse_eq_unclosed_iff {n : String} :
    Element.parse s = .error (.unclosed n) ↔
      (scan s).fault = none ∧ ∃ x stack sc root, Opened (scan s).tokens (x :: stack) sc root ∧
        n = x.name.render := by
  constructor
  · intro h
    obtain ⟨hf, b, hb, hfin⟩ := parse_error_at_end h id
    obtain ⟨x, rest, hstack, rfl⟩ := Builder.finish_eq_unclosed_iff.1 hfin
    refine ⟨hf, x, rest, b.scope, b.root, ?_, rfl⟩
    rw [← hstack]
    exact Opened.of_foldlM hb
  · rintro ⟨hf, x, stack, sc, root, hopen, rfl⟩
    rw [parse_of_fault_none hf, hopen.foldlM_eq_ok]
    rfl

/-- A document whose tokens all read fails for want of a root exactly when they read as no
element at all. -/
theorem parse_eq_noRoot_iff :
    Element.parse s = .error .noRoot ↔
      (scan s).fault = none ∧ Reads false Scope.initial (scan s).tokens [] "" := by
  constructor
  · intro h
    obtain ⟨hf, b, hb, hfin⟩ := parse_error_at_end h id
    obtain ⟨hstack, hroot⟩ := Builder.finish_eq_noRoot_iff.1 hfin
    have hopen := Opened.of_foldlM hb
    rw [hstack, hroot, Opened.nil_iff] at hopen
    exact ⟨hf, hopen.2⟩
  · rintro ⟨hf, hr⟩
    rw [parse_of_fault_none hf, (show Opened _ [] Scope.initial none from .top hr).foldlM_eq_ok]
    rfl

/-- A second element at top level fails with its own name, whatever follows it. -/
theorem parse_second_root {pre post : List (Nat × Token)} {r₁ r₂ : Element} {rest : List Element}
    (htoks : (scan s).tokens = pre ++ post)
    (h : Reads false Scope.initial pre (r₁ :: r₂ :: rest) "") :
    Element.parse s = .error (.unexpectedEnd r₂.name.render) := by
  apply parse_of_foldlM_error
  rw [htoks, List.foldlM_append, h.foldlM_second_root rfl rfl r₁ r₂ rest rfl, error_bind]

/-- Reading a document fails only with a token's error, an element left open, or no root. -/
theorem parse_error_cases {e : ParseError} (h : Element.parse s = .error e) :
    e.OfToken ∨ (∃ n, e = .unclosed n) ∨ e = .noRoot := by
  by_cases he : e.OfToken
  · exact .inl he
  · obtain ⟨-, ⟨stack, root, sc⟩, -, hfin⟩ := parse_error_at_end h he
    cases stack <;> cases root <;> cases hfin
    · exact .inr (.inr rfl)
    · exact .inr (.inl ⟨_, rfl⟩)
    · exact .inr (.inl ⟨_, rfl⟩)

end Parse

/-- Reading a document builds the tree its tags describe, or fails with the first error in reading
order; there are no other outcomes. -/
theorem parse_builds_document_tree :
    (∀ toks b, toks.foldlM Builder.step Builder.initial = .ok b ↔
      Opened toks b.stack b.scope b.root) ∧
    (∀ s r, Element.parse s = .ok r ↔
      (scan s).fault = none ∧ Reads false Scope.initial (scan s).tokens [r] "") ∧
    (∀ s e, Element.parse s = .error e ∧ e.OfToken ↔
      (∃ pre t post, ∃ b : Builder, (scan s).tokens = pre ++ t :: post ∧
        Opened pre b.stack b.scope b.root ∧ b.step t = .error e) ∨
      (∃ stack sc root, Opened (scan s).tokens stack sc root) ∧
        ∃ pos f, (scan s).fault = some (pos, f) ∧ e = .read pos f) ∧
    (∀ s n, Element.parse s = .error (.unclosed n) ↔
      (scan s).fault = none ∧ ∃ x stack sc root, Opened (scan s).tokens (x :: stack) sc root ∧
        n = x.name.render) ∧
    (∀ s, Element.parse s = .error .noRoot ↔
      (scan s).fault = none ∧ Reads false Scope.initial (scan s).tokens [] "") ∧
    (∀ s e, Element.parse s = .error e → e.OfToken ∨ (∃ n, e = .unclosed n) ∨ e = .noRoot) ∧
    (∀ s pre post r₁ r₂ rest, (scan s).tokens = pre ++ post →
      Reads false Scope.initial pre (r₁ :: r₂ :: rest) "" →
        Element.parse s = .error (.unexpectedEnd r₂.name.render)) ∧
    ∀ raw res e, namespaceOf raw res = .error e ↔
      ∃ q, res = .unknown q ∧ q ≠ "xml" ∧ e = .unboundPrefix raw :=
  ⟨fun _ _ => foldlM_eq_ok_iff_opened, fun _ _ => parse_eq_ok_iff,
    fun _ _ => parse_eq_error_of_token_iff, fun _ _ => parse_eq_unclosed_iff,
    fun _ => parse_eq_noRoot_iff, fun _ _ => parse_error_cases,
    fun _ _ _ _ _ _ => parse_second_root, fun _ _ _ => namespaceOf_eq_error_iff⟩

end GirAda.Xml
