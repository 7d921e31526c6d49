import GirAda.Proofs.Wrappers

/-!
# The name of a constructor's initializer

A constructor gives two procedures: the allocator, named as the signature, and the initializer,
named by replacing `<Ns>_New` in that name with `Initialize`, so that `Gtk_New_With_Label` is
initialized by `Initialize_With_Label`. The allocator calls the initializer by name.

Replacing the occurrences of a pattern from the left keeps a count: each occurrence replaced
trades the pattern's characters for the replacement's. The pattern `<Ns>_New` holds an
underscore and `Initialize` none, so the replacement changes a name exactly when it finds an
occurrence. The initializer is therefore named apart from the allocator exactly when the
allocator's name contains `<Ns>_New`. It does for a constructor `new...` that is not renamed;
it does not for `create`, whose two procedures are both `Gtk_Create`.

Main statement: `initializer_named_apart_iff`.
-/

namespace GirAda.Text

variable {pat rep : List Char}

/-- Where a non-empty pattern starts the text, the text after the occurrence is the tail without
one character less than the pattern's length. -/
theorem eq_append_drop_of_isPrefixOf {c : Char} {cs : List Char} (hpat : pat ≠ [])
    (h : pat.isPrefixOf (c :: cs) = true) : c :: cs = pat ++ cs.drop (pat.length - 1) := by
  obtain ⟨t, ht⟩ := List.isPrefixOf_iff_prefix.1 h
  cases pat with
  | nil => exact absurd rfl hpat
  | cons p ps =>
    simp only [List.cons_append, List.cons.injEq] at ht
    obtain ⟨rfl, rfl⟩ := ht
    simp

/-- Replacing from the left keeps the count of every character: each occurrence replaced trades
the pattern's copies for the replacement's. -/
theorem count_replaceFrom (pat rep : List Char) (x : Char) (k : Nat) (cs : List Char) :
    (replaceFrom pat rep k cs).count x + countFrom pat k cs * pat.count x =
      (cs.drop k).count x + countFrom pat k cs * rep.count x := by
  induction cs generalizing k with
  | nil => simp [replaceFrom, countFrom]
  | cons c cs ih =>
    cases k with
    | succ k => simpa [replaceFrom, countFrom] using ih k
    | zero =>
      by_cases h : pat ≠ [] ∧ pat.isPrefixOf (c :: cs) = true
      · -- the occurrence at the head is replaced, and the scan resumes after it
        have hcs := eq_append_drop_of_isPrefixOf h.1 h.2
        have hrest := ih (pat.length - 1)
        simp only [replaceFrom, countFrom, if_pos h, List.count_append, List.drop_zero]
        rw [hcs, List.count_append, Nat.succ_mul, Nat.succ_mul]
        omega
      · have hrest := ih 0
        simp only [List.drop_zero] at hrest
        simp only [replaceFrom, countFrom, if_neg h, List.drop_zero, List.count_cons]
        omega

/-- A non-empty pattern that occurs in the text is counted. -/
theorem countFrom_pos_of_infix (hpat : pat ≠ []) {cs : List Char} (h : pat <:+: cs) :
    0 < countFrom pat 0 cs := by
  induction cs with
  | nil => exact absurd (List.infix_nil.1 h) hpat
  | cons c cs ih =>
    by_cases hc : pat.isPrefixOf (c :: cs) = true
    · simp [countFrom, hpat, hc]
    · rcases List.infix_cons_iff.1 h with hp | hi
      · exact absurd (List.isPrefixOf_iff_prefix.2 hp) hc
      · simpa [countFrom, hc] using ih hi

/-- A text in which the pattern does not occur is kept. -/
theorem replaceChars_of_not_infix {cs : List Char} (h : ¬ pat <:+: cs) :
    replaceChars pat rep cs = cs := by
  induction cs with
  | nil => rfl
  | cons c cs ih =>
    have hhead : ¬ (pat ≠ [] ∧ pat.isPrefixOf (c :: cs) = true) := fun hp =>
      h (List.isPrefixOf_iff_prefix.1 hp.2).isInfix
    have htail := ih fun hi => h (List.infix_cons hi)
    simp only [replaceChars, replaceFrom, if_neg hhead] at htail ⊢
    rw [htail]

/-- With a character that the pattern holds and the replacement does not, replacing changes the
text exactly when the pattern occurs in it. -/
theorem replaceChars_eq_self_iff {x : Char} (hx : x ∈ pat) (hrep : x ∉ rep) (cs : List Char) :
    replaceChars pat rep cs = cs ↔ ¬ pat <:+: cs := by
  refine ⟨fun heq hin => ?_, replaceChars_of_not_infix⟩
  have hcount := count_replaceFrom pat rep x 0 cs
  have hpos := countFrom_pos_of_infix (List.ne_nil_of_mem hx) hin
  have hp : 0 < pat.count x := List.count_pos_iff.2 hx
  rw [← replaceChars, heq, List.drop_zero, List.count_eq_zero.2 hrep, Nat.mul_zero] at hcount
  have := Nat.mul_pos hpos hp
  omega

/-- A string's characters hold a pattern's exactly when the string is split around the
pattern. -/
theorem infix_toList_iff {p s : String} :
    p.toList <:+: s.toList ↔ ∃ pre post : String, s = pre ++ p ++ post := by
  constructor
  · rintro ⟨l, t, h⟩
    refine ⟨String.ofList l, String.ofList t, ?_⟩
    rw [← String.toList_inj, ← h]
    simp
  · rintro ⟨pre, post, rfl⟩
    exact ⟨pre.toList, post.toList, by simp⟩

theorem replaceAll_eq_self_iff {s p r : String} {x : Char} (hx : x ∈ p.toList)
    (hr : x ∉ r.toList) : replaceAll s p r = s ↔ ¬ ∃ pre post : String, s = pre ++ p ++ post := by
  rw [replaceAll, ← String.toList_inj, String.toList_ofList, replaceChars_eq_self_iff hx hr,
    infix_toList_iff]

end GirAda.Text

namespace GirAda.Ada

open GirAda.Gir GirAda.Override GirAda.Text

namespace SignatureBuilder

variable {b : SignatureBuilder} {c : Callable} {S : Signature}

/-- A built signature is named by `adaNameOf`. -/
theorem adaName_of_build (h : b.build c = .ok S) : S.adaName = b.adaNameOf c := by
  obtain ⟨hb, hp, -, hret⟩ := build_eq_ok h
  cases hk : c.kind with
  | constructor =>
    simp only [build, hb, hp, hk, Bool.not_true, bind, Except.bind, pure, Except.pure] at h
    rw [← Except.ok.inj h]
  | method | signal =>
    simp only [build, hb, hp, hk, hret (by simp [hk]), Bool.not_true, bind, Except.bind, pure,
      Except.pure] at h
    rw [← Except.ok.inj h]

variable (b)

/-- The names of a constructor's pair: the signature's, then the initializer's made from it. -/
theorem names_constructor (cls : ClassNames) (S : Signature) :
    (b.constructor cls S).map Subprogram.name =
      [S.adaName, replaceAll S.adaName (b.naming.case b.naming.space ++ "_New") "Initialize"] :=
  rfl

end SignatureBuilder

/-- A short name beginning with `new` is titled `New`. -/
theorem titleFrom_new (t : List Char) :
    titleFrom false ('n' :: 'e' :: 'w' :: t) = 'N' :: 'e' :: 'w' :: titleFrom true t := by
  have hn : upperCase 'n' = ['N'] := by decide
  have he : lowerCase 'e' = ['e'] := by decide
  have hw : lowerCase 'w' = ['w'] := by decide
  have ha : isAlphabetic 'n' = true ∧ isAlphabetic 'e' = true ∧ isAlphabetic 'w' = true := by
    decide
  simp [titleFrom, hn, he, hw, ha]

theorem title_of_startsWith_new {name : String} (h : name.startsWith "new" = true) :
    ∃ rest : String, title name = "New" ++ rest := by
  obtain ⟨t, ht⟩ := String.startsWith_string_iff.1 h
  refine ⟨String.ofList (titleFrom true t), ?_⟩
  rw [title, ← ht, ← String.toList_inj]
  simp [titleFrom_new]

open SignatureBuilder in
/-- The two procedures of a built constructor: the allocator keeps the signature's name, which is
the override's rename or else `<Ns>_` and the titled short name; the initializer's name replaces
`<Ns>_New` in it by `Initialize`. The two are named apart exactly when the allocator's name
contains `<Ns>_New`, as it does for a constructor `new...` that is not renamed. -/
theorem initializer_named_apart_iff {b : SignatureBuilder} {c : Callable} {S : Signature}
    (hk : c.kind = .constructor) (hS : b.build c = .ok S) (cls : ClassNames) :
    let pat := b.naming.case b.naming.space ++ "_New"
    let initName := replaceAll S.adaName pat "Initialize"
    S.adaName = resolveName (b.overrides.adaName c.identifier) none
        (b.naming.case b.naming.space ++ "_" ++ title c.name) ∧
      (b.constructor cls S).map Subprogram.name = [S.adaName, initName] ∧
      (initName ≠ S.adaName ↔ ∃ pre post : String, S.adaName = pre ++ pat ++ post) ∧
      (b.overrides.adaName c.identifier = none → c.name.startsWith "new" = true →
        initName ≠ S.adaName) := by
  intro pat initName
  have hname : S.adaName = resolveName (b.overrides.adaName c.identifier) none
      (b.naming.case b.naming.space ++ "_" ++ title c.name) := by
    rw [adaName_of_build hS, adaNameOf, hk]
  -- the pattern holds an underscore and `Initialize` none
  have hx : '_' ∈ pat.toList := by simp [pat]
  have hr : '_' ∉ "Initialize".toList := by decide
  have hapart : initName ≠ S.adaName ↔ ∃ pre post : String, S.adaName = pre ++ pat ++ post := by
    rw [Ne, replaceAll_eq_self_iff hx hr, not_not]
  refine ⟨hname, names_constructor b cls S, hapart, fun hrename hnew => hapart.2 ?_⟩
  obtain ⟨rest, htitle⟩ := title_of_startsWith_new hnew
  have hpat : pat = b.naming.case b.naming.space ++ "_" ++ "New" := by
    rw [String.append_assoc, show ("_" : String) ++ "New" = "_New" by decide]
  refine ⟨"", rest, ?_⟩
  rw [hname, hrename, resolveName, htitle, String.empty_append, hpat]
  simp only [String.append_assoc]

/-- A constructor `new` of a class `Frame` is allocated by `Gtk_New` and initialized by
`Initialize`. -/
theorem new_frame_initializer_named_apart :
    let b : SignatureBuilder := ⟨⟨⟨"Gtk", Index.empty, []⟩, Naming.new "Gtk", TypeTable.default⟩,
      Registry.empty⟩
    let c : Callable := ⟨.constructor, "new", some "gtk_frame_new", [],
      some (.direct ⟨some "Frame", some "GtkFrame*"⟩), none, none⟩
    let cls := ClassNames.of (Naming.new "Gtk") "Frame"
    ∃ S, c.kind = .constructor ∧ b.build c = .ok S ∧
      (let pat := b.naming.case b.naming.space ++ "_New"
       let initName := replaceAll S.adaName pat "Initialize"
       S.adaName = resolveName (b.overrides.adaName c.identifier) none
           (b.naming.case b.naming.space ++ "_" ++ title c.name) ∧
         (b.constructor cls S).map Subprogram.name = [S.adaName, initName] ∧
         (initName ≠ S.adaName ↔ ∃ pre post : String, S.adaName = pre ++ pat ++ post) ∧
         (b.overrides.adaName c.identifier = none → c.name.startsWith "new" = true →
           initName ≠ S.adaName)) := by
  intro b c cls
  obtain ⟨S, hS⟩ : ∃ S, b.build c = .ok S := ⟨_, rfl⟩
  exact ⟨S, rfl, hS, initializer_named_apart_iff rfl hS cls⟩

/-- A constructor `create` is named `Gtk_Create`, which holds no `Gtk_New`: the initializer keeps
that name, and the allocator's call to it names the allocator itself. -/
theorem create_constructor_shares_its_name :
    let b : SignatureBuilder := ⟨⟨⟨"Gtk", Index.empty, []⟩, Naming.new "Gtk", TypeTable.default⟩,
      Registry.empty⟩
    let c : Callable := ⟨.constructor, "create", some "gtk_frame_create", [],
      some (.direct ⟨some "Frame", some "GtkFrame*"⟩), none, none⟩
    ∃ S, b.build c = .ok S ∧
      (b.constructor (ClassNames.of b.naming "Frame") S).map Subprogram.name =
        ["Gtk_Create", "Gtk_Create"] := by
  intro b c
  exact ⟨_, rfl, by decide⟩

end GirAda.Ada
