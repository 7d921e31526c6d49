import Mathlib.Data.List.TakeWhile
import GirAda.Proofs.Wrapping
import GirAda.Proofs.Spellings
import GirAda.Doc.Clean
import GirAda.Ada.Package

/-!
# Paragraphs of package documentation

A class's documentation reaches its package as one text: `cleanDoc` cleans each paragraph
between blank lines, drops the empty ones and joins the rest with blank lines; the package splits
that text at blank lines again when it writes its comment block. The split undoes the join
because no cleaned paragraph holds a line break: `clean` turns each run of blanks, line breaks
included, into one space before it substitutes markup, and the substitutions write `True`,
`False`, `null` and Ada spellings of ASCII names, which hold no line break as long as the naming's
exceptions hold none. The argument is the one for any separator that no piece contains: reading
a piece only extends the piece being read (`splitFrom_append_of_not_break`).

A cleaned paragraph need not have a word: markup whose substitution is empty leaves only blanks,
and `@_ @_` cleans to one space. Such a paragraph survives the split, and the comment block leaves
it out.

Main statement: `package_doc_paragraphs`.
-/

namespace GirAda

open GirAda.Text GirAda.Ada GirAda.Doc

/-! ## Characters that casing keeps on one line -/

namespace Doc

/-- An ASCII character other than the line break. -/
def AsciiInline (c : Char) : Prop := c.toNat < 128 ∧ c ≠ '\n'

instance : DecidablePred AsciiInline := fun _ => inferInstanceAs (Decidable (_ ∧ _))

/-- A property of characters holds of every ASCII character once it is checked on each of the
first 128 code points. -/
theorem of_ascii {P : Char → Prop} (h : ∀ n < 128, P (Char.ofNat n)) {c : Char}
    (hc : c.toNat < 128) : P c := by
  rw [← Char.ofNat_toNat c]
  exact h _ hc

theorem upperCase_inline {c : Char} (hc : AsciiInline c) : ∀ d ∈ upperCase c, AsciiInline d := by
  -- each of the 128 code points is checked, its mapping tested as a whole
  have h := of_ascii (P := fun c => AsciiInline c → (upperCase c).all (fun d => decide (AsciiInline d)) = true)
    (by decide) hc.1 hc
  simpa using h

theorem lowerCase_inline {c : Char} (hc : AsciiInline c) : ∀ d ∈ lowerCase c, AsciiInline d := by
  have h := of_ascii (P := fun c => AsciiInline c → (lowerCase c).all (fun d => decide (AsciiInline d)) = true)
    (by decide) hc.1 hc
  simpa using h

theorem asciiInline_of_isAsciiAlnum {c : Char} (h : isAsciiAlnum c = true) : AsciiInline c := by
  have hc : c.toNat < 128 := by
    simp only [isAsciiAlnum, isAsciiUpper, isAsciiLower, isAsciiDigit, Bool.or_eq_true,
      Bool.and_eq_true, decide_eq_true_eq] at h
    rcases h with (h | h) | h <;> exact toNat_lt_of_le h.2 (by decide)
  exact of_ascii (P := fun c => isAsciiAlnum c = true → AsciiInline c) (by decide) hc h

theorem asciiInline_of_continuesParam {c : Char} (h : continuesParam c = true) : AsciiInline c := by
  have hc : c.toNat < 128 := by
    simp only [continuesParam, isAsciiLower, isAsciiDigit, Bool.or_eq_true, Bool.and_eq_true,
      decide_eq_true_eq, beq_iff_eq] at h
    rcases h with (h | h) | rfl
    · exact toNat_lt_of_le h.2 (by decide)
    · exact toNat_lt_of_le h.2 (by decide)
    · decide
  exact of_ascii (P := fun c => continuesParam c = true → AsciiInline c) (by decide) hc h

theorem continuesParam_of_startsParam {c : Char} (h : startsParam c = true) :
    continuesParam c = true := by
  simp only [startsParam, continuesParam, Bool.or_eq_true] at h ⊢
  tauto

end Doc

/-! ## Ada spellings of ASCII names -/

namespace Ada

/-- A naming whose exceptions write no line break. -/
def Naming.BreakFree (n : Naming) : Prop := ∀ e ∈ n.exceptions, '\n' ∉ e.2.toList

/-- Every character of a word read from a name was read from it or from the word being read. -/
theorem mem_of_mem_wordsFrom {prev : Option Char} {cur cs w : List Char}
    (hw : w ∈ Ada.wordsFrom prev cur cs) {c : Char} (hc : c ∈ w) : c ∈ cur ∨ c ∈ cs := by
  induction cs generalizing prev cur with
  | nil =>
    by_cases he : cur.isEmpty <;> simp [Ada.wordsFrom, he] at hw
    subst hw
    exact .inl (List.mem_reverse.1 hc)
  | cons d cs ih =>
    unfold Ada.wordsFrom at hw
    split_ifs at hw with hsep hcur hstart
    · have := ih hw
      simp only [List.mem_cons, List.not_mem_nil, false_or] at this ⊢
      exact .inr (.inr this)
    · rcases List.mem_cons.1 hw with rfl | hw
      · exact .inl (List.mem_reverse.1 hc)
      · have := ih hw
        simp only [List.mem_cons, List.not_mem_nil, false_or] at this ⊢
        exact .inr (.inr this)
    · rcases List.mem_cons.1 hw with rfl | hw
      · exact .inl (List.mem_reverse.1 hc)
      · have := ih hw
        simp only [List.mem_cons, List.not_mem_nil, or_false] at this ⊢
        tauto
    · have := ih hw
      simp only [List.mem_cons] at this ⊢
      tauto

theorem mem_of_mem_splitWords {s w : String} (hw : w ∈ splitWords s) {c : Char}
    (hc : c ∈ w.toList) : c ∈ s.toList := by
  obtain ⟨w', hw', rfl⟩ := List.mem_map.1 hw
  rw [String.toList_ofList] at hc
  simpa using mem_of_mem_wordsFrom hw' hc

theorem capitalize_inline {w : String} (hw : ∀ c ∈ w.toList, Doc.AsciiInline c) :
    ∀ d ∈ (capitalize w).toList, Doc.AsciiInline d := by
  unfold capitalize
  cases h : w.toList with
  | nil => simp
  | cons c cs =>
    rw [h] at hw
    simp only [String.toList_ofList, List.mem_append, List.mem_flatMap]
    rintro d (hd | ⟨e, he, hd⟩)
    · exact Doc.upperCase_inline (hw c (List.mem_cons_self ..)) d hd
    · exact Doc.lowerCase_inline (hw e (List.mem_cons_of_mem c he)) d hd

/-- An exception replaces a name by one of the exceptions' texts, or keeps it. -/
theorem except_cases (n : Naming) (s : String) :
    n.except s = s ∨ ∃ e ∈ n.exceptions, n.except s = e.2 := by
  unfold Naming.except
  cases h : n.exceptions.find? (·.1 == s) with
  | none => exact .inl rfl
  | some e => exact .inr ⟨e, List.mem_of_find?_eq_some h, rfl⟩

theorem not_break_except {n : Naming} (hn : n.BreakFree) {s : String} (hs : '\n' ∉ s.toList) :
    '\n' ∉ (n.except s).toList := by
  rcases except_cases n s with h | ⟨e, he, h⟩ <;> rw [h]
  · exact hs
  · exact hn e he

theorem not_mem_intercalate {α : Type} {a : α} {sep : List α} (hsep : a ∉ sep)
    {ls : List (List α)} (h : ∀ l ∈ ls, a ∉ l) : a ∉ sep.intercalate ls := by
  induction ls with
  | nil => simp
  | cons l ls ih =>
    cases ls with
    | nil => simpa using h l (List.mem_cons_self ..)
    | cons l' ls =>
      rw [List.intercalate_cons_cons]
      simp only [List.mem_append, not_or]
      exact ⟨⟨h l (List.mem_cons_self ..), hsep⟩, ih fun l hl => h l (List.mem_cons_of_mem _ hl)⟩

/-- The Ada spelling of an ASCII name without line breaks has none, as long as the exceptions
write none. -/
theorem not_break_case {n : Naming} (hn : n.BreakFree) {s : String}
    (hs : ∀ c ∈ s.toList, Doc.AsciiInline c) : '\n' ∉ (n.case s).toList := by
  unfold Naming.case
  apply not_break_except hn
  rw [String.toList_intercalate]
  refine not_mem_intercalate (by decide) fun l hl => ?_
  obtain ⟨w, hw, rfl⟩ : ∃ w ∈ splitWords s, (n.except (capitalize w)).toList = l := by
    simpa using hl
  refine not_break_except hn fun h => ?_
  exact (capitalize_inline (fun c hc => hs c (mem_of_mem_splitWords hw hc)) '\n' h).2 rfl

end Ada

/-! ## Cleaned paragraphs -/

namespace Doc

theorem not_break_collapseFrom (inRun : Bool) (cs : List Char) : '\n' ∉ collapseFrom inRun cs := by
  induction cs generalizing inRun with
  | nil => simp [collapseFrom]
  | cons c cs ih =>
    unfold collapseFrom
    -- a line break is blank, so it goes with the run of blanks it belongs to
    split_ifs with hc hrun
    · exact ih true
    · simpa using ih true
    · have hne : '\n' ≠ c := by
        rintro rfl
        exact absurd hc (by decide)
      exact List.not_mem_cons_of_ne_of_not_mem hne (ih false)

theorem mem_replaceMarkerFrom {pat rep : List Char} {skip : Nat} {cs : List Char} {c : Char}
    (h : c ∈ replaceMarkerFrom pat rep skip cs) : c ∈ cs ∨ c ∈ rep := by
  induction cs generalizing skip with
  | nil => simp [replaceMarkerFrom] at h
  | cons d cs ih =>
    cases skip with
    | succ s => exact (ih h).imp_left (List.mem_cons_of_mem d)
    | zero =>
      simp only [replaceMarkerFrom] at h
      split_ifs at h
      · rcases List.mem_append.1 h with h | h
        · exact .inr h
        · exact (ih h).imp_left (List.mem_cons_of_mem d)
      · rcases List.mem_cons.1 h with rfl | h
        · exact .inl (List.mem_cons_self ..)
        · exact (ih h).imp_left (List.mem_cons_of_mem d)

theorem take_length_takeWhile {α : Type} (p : α → Bool) (l : List α) :
    l.take (l.takeWhile p).length = l.takeWhile p := by
  have h := List.takeWhile_append_dropWhile (p := p) (l := l)
  calc l.take (l.takeWhile p).length
      = (l.takeWhile p ++ l.dropWhile p).take (l.takeWhile p).length := by rw [h]
    _ = l.takeWhile p := List.take_left' rfl

/-- A type reference is made of ASCII letters and digits. -/
theorem typeRefAt_alnum {cs : List Char} {a b : Nat} (h : typeRefAt cs = some (a, b)) :
    ∀ c ∈ cs.take (a + b), isAsciiAlnum c = true := by
  cases cs with
  | nil => cases h
  | cons u more =>
    have hlower : ∀ c ∈ more.take (more.takeWhile isAsciiLower).length, isAsciiAlnum c = true := by
      intro c hc
      rw [take_length_takeWhile] at hc
      simp [isAsciiAlnum, List.mem_takeWhile_imp hc]
    simp only [typeRefAt] at h
    split_ifs at h with hu hk hm hk2
    · obtain ⟨rfl, rfl⟩ := Prod.mk.inj (Option.some.inj h)
      rw [Nat.add_assoc, Nat.add_comm 1, List.take_succ_cons, List.take_add]
      intro c hc
      rcases List.mem_cons.1 hc with rfl | hc
      · simp [isAsciiAlnum, show isAsciiUpper c = true by simpa using hu]
      rcases List.mem_append.1 hc with hc | hc
      · exact hlower c hc
      · rw [take_length_takeWhile] at hc
        exact List.mem_takeWhile_imp hc
    · obtain ⟨rfl, rfl⟩ := Prod.mk.inj (Option.some.inj h)
      rw [List.take_succ_cons]
      intro c hc
      rcases List.mem_cons.1 hc with rfl | hc
      · simp [isAsciiAlnum, show isAsciiUpper c = true by simpa using hu]
      · exact hlower c hc

theorem not_break_replaceMarker {pat rep cs : List Char} (hrep : '\n' ∉ rep) (hcs : '\n' ∉ cs) :
    '\n' ∉ replaceMarker pat rep cs :=
  fun h => (mem_replaceMarkerFrom h).elim hcs hrep

theorem not_break_typeRefsFrom {n : Naming} (hn : n.BreakFree) (skip : Nat) {cs : List Char}
    (hcs : '\n' ∉ cs) : '\n' ∉ typeRefsFrom n skip cs := by
  induction cs generalizing skip with
  | nil => simp [typeRefsFrom]
  | cons c rest ih =>
    have hrest := List.not_mem_of_not_mem_cons hcs
    have hc := List.ne_of_not_mem_cons hcs
    cases skip with
    | succ s => exact ih s hrest
    | zero =>
      simp only [typeRefsFrom]
      split
      · split
        · next a b href =>
          have hascii := typeRefAt_alnum href
          rw [List.take_add] at hascii
          have hfirst : ∀ d ∈ (String.ofList (rest.take a)).toList, AsciiInline d := fun d hd =>
            asciiInline_of_isAsciiAlnum (hascii d (List.mem_append_left _ (by simpa using hd)))
          have hsecond : ∀ d ∈ (String.ofList ((rest.drop a).take b)).toList, AsciiInline d :=
            fun d hd => asciiInline_of_isAsciiAlnum (hascii d (List.mem_append_right _ (by simpa using hd)))
          simp only [String.toList_append, List.mem_append, not_or]
          exact ⟨⟨⟨not_break_case hn hfirst, by decide⟩, not_break_case hn hsecond⟩, ih (a + b) hrest⟩
        · exact List.not_mem_cons_of_ne_of_not_mem hc (ih 0 hrest)
      · exact List.not_mem_cons_of_ne_of_not_mem hc (ih 0 hrest)

theorem not_break_paramRefs {n : Naming} (hn : n.BreakFree) {cs : List Char} (hcs : '\n' ∉ cs) :
    '\n' ∉ paramRefs n cs := by
  induction cs using paramRefs.induct with
  | case1 => simp [paramRefs]
  | case2 c => simpa [paramRefs] using hcs
  | case3 c d more hparam _ ih =>
    rw [paramRefs, if_pos hparam]
    simp only [Bool.and_eq_true] at hparam
    have hname : ∀ e ∈ (String.ofList (d :: more.takeWhile continuesParam)).toList,
        AsciiInline e := by
      intro e he
      rw [String.toList_ofList] at he
      rcases List.mem_cons.1 he with rfl | he
      · exact asciiInline_of_continuesParam (continuesParam_of_startsParam hparam.2)
      · exact asciiInline_of_continuesParam (List.mem_takeWhile_imp he)
    have hrest : '\n' ∉ more.dropWhile continuesParam := fun h =>
      hcs (List.mem_cons_of_mem _ (List.mem_cons_of_mem _ ((List.dropWhile_suffix _).subset h)))
    simp only [List.mem_append, not_or]
    exact ⟨not_break_case hn hname, ih hrest⟩
  | case4 c d more hparam ih =>
    rw [paramRefs, if_neg hparam]
    exact List.not_mem_cons_of_ne_of_not_mem (List.ne_of_not_mem_cons hcs)
      (ih (List.not_mem_of_not_mem_cons hcs))

/-- A cleaned paragraph holds no line break, as long as the naming's exceptions write none. -/
theorem not_break_clean {n : Naming} (hn : n.BreakFree) (text : String) :
    '\n' ∉ (clean n text).toList := by
  unfold clean typeRefs
  rw [String.toList_ofList]
  -- blanks are collapsed first; each substitution then writes words without line breaks
  refine not_break_paramRefs hn (not_break_typeRefsFrom hn 0 ?_)
  exact not_break_replaceMarker (by decide) (not_break_replaceMarker (by decide)
    (not_break_replaceMarker (by decide) (not_break_collapseFrom false _)))

/-! ## Joining paragraphs and splitting them again -/

/-- Characters other than the line break only extend the piece being read. -/
theorem splitFrom_append_of_not_break {p : List Char} (hp : '\n' ∉ p) (cur rest : List Char) :
    splitFrom cur (p ++ rest) = splitFrom (p.reverse ++ cur) rest := by
  induction p generalizing cur with
  | nil => rfl
  | cons c p ih =>
    have hc := List.ne_of_not_mem_cons hp
    rw [List.cons_append, splitFrom.eq_3 _ _ _ (by simp [Ne.symm hc]),
      ih (List.not_mem_of_not_mem_cons hp)]
    simp

theorem splitFrom_intercalate {ps : List (List Char)} (hne : ps ≠ []) (h : ∀ p ∈ ps, '\n' ∉ p) :
    splitFrom [] (['\n', '\n'].intercalate ps) = ps := by
  induction ps with
  | nil => exact absurd rfl hne
  | cons p ps ih =>
    have hp := h p (List.mem_cons_self ..)
    cases ps with
    | nil =>
      rw [List.intercalate_singleton, ← List.append_nil p, splitFrom_append_of_not_break hp]
      simp [splitFrom]
    | cons q qs =>
      rw [List.intercalate_cons_cons, List.append_assoc, splitFrom_append_of_not_break hp]
      simp [splitFrom, ih (List.cons_ne_nil q qs) fun r hr => h r (List.mem_cons_of_mem p hr)]

/-- Texts without line breaks, joined by blank lines, split back into themselves. -/
theorem paragraphs_intercalate {ps : List String} (hne : ps ≠ []) (h : ∀ p ∈ ps, '\n' ∉ p.toList) :
    paragraphs ("\n\n".intercalate ps) = ps := by
  unfold paragraphs
  rw [String.toList_intercalate, show "\n\n".toList = ['\n', '\n'] from rfl,
    splitFrom_intercalate (by simpa using hne) (by simpa using h)]
  simp [Function.comp_def]

/-- Splitting cleaned documentation gives back the cleaned paragraphs that are not empty, as long
as one is. -/
theorem paragraphs_cleanDoc {n : Naming} (hn : n.BreakFree) {text : String}
    (ht : ∃ p ∈ paragraphs text, clean n p ≠ "") :
    paragraphs (cleanDoc n text) = ((paragraphs text).map (clean n)).filter fun p => !p.isEmpty := by
  obtain ⟨p, hp, hclean⟩ := ht
  refine paragraphs_intercalate ?_ fun q hq => ?_
  · exact List.ne_nil_of_mem (List.mem_filter.2 ⟨List.mem_map_of_mem hp, by simpa using hclean⟩)
  · obtain ⟨r, -, rfl⟩ := List.mem_map.1 (List.mem_filter.1 hq).1
    exact not_break_clean hn r

/-- A comment block is the comment lines of the paragraphs that have words, with a bare `--` line
between two of them. -/
theorem comment_eq_blocks (paragraphs : List String) (indent : String) :
    comment paragraphs indent = (indent ++ "--\n").intercalate
      ((paragraphs.filter fun p => words p ≠ []).map (commentLines indent)) := by
  have hkept : paragraphs.filter ((fun t => !t.isEmpty) ∘ commentLines indent) =
      paragraphs.filter fun p => words p ≠ [] :=
    List.filter_congr fun p _ => by
      rw [Function.comp_apply, Bool.eq_iff_iff]
      simp [commentLines_eq_empty_iff]
  rw [comment, List.filter_map, hkept]

end Doc

/-- A package's documentation cleaned from a class splits back into the class's non-empty cleaned
paragraphs, and its comment block writes those with a word, between bare `--` lines. -/
theorem package_doc_paragraphs {n : Naming} (hn : n.BreakFree) {text : String}
    (ht : ∃ p ∈ Doc.paragraphs text, clean n p ≠ "") {pkg : Package}
    (hdoc : pkg.doc = some (cleanDoc n text)) :
    let cleaned := ((Doc.paragraphs text).map (clean n)).filter fun p => !p.isEmpty
    Doc.paragraphs (cleanDoc n text) = cleaned ∧
      pkg.docText =
        "--\n".intercalate ((cleaned.filter fun p => words p ≠ []).map (commentLines "")) ++ "\n" := by
  intro cleaned
  have hsplit := paragraphs_cleanDoc hn ht
  refine ⟨hsplit, ?_⟩
  simp only [Package.docText, hdoc, hsplit, comment_eq_blocks]
  rfl

/-- Documentation for `Gtk.Frame` whose middle paragraph is `@_ @_`, under a naming without
exceptions. -/
theorem frame_doc_paragraphs :
    let n := Naming.new "Gtk"
    let text := "First.\n\n@_ @_\n\nLast."
    let pkg := (Package.new "Gtk.Frame").setDoc (cleanDoc n text)
    let cleaned := ((Doc.paragraphs text).map (clean n)).filter fun p => !p.isEmpty
    n.BreakFree ∧ (∃ p ∈ Doc.paragraphs text, clean n p ≠ "") ∧ pkg.doc = some (cleanDoc n text) ∧
      Doc.paragraphs (cleanDoc n text) = cleaned ∧
      pkg.docText =
        "--\n".intercalate ((cleaned.filter fun p => words p ≠ []).map (commentLines "")) ++ "\n" := by
  intro n text pkg cleaned
  have hn : n.BreakFree := fun _ h => nomatch h
  have ht : ∃ p ∈ Doc.paragraphs text, clean n p ≠ "" := ⟨"First.", by decide, by decide +kernel⟩
  exact ⟨hn, ht, rfl, package_doc_paragraphs hn ht rfl⟩

/-- A cleaned paragraph can be non-empty without having a word: `@_` refers to a parameter whose
Ada spelling is empty, so `@_ @_` cleans to one space. The split gives that paragraph back, but
the package's comment block does not write it. -/
theorem wordless_paragraph_not_rendered :
    let n := Naming.new "Gtk"
    let text := "First.\n\n@_ @_\n\nLast."
    ((Doc.paragraphs text).map (clean n)).filter (fun p => !p.isEmpty) = ["First.", " ", "Last."] ∧
      Doc.paragraphs (cleanDoc n text) = ["First.", " ", "Last."] ∧
      ((Package.new "Gtk.Frame").setDoc (cleanDoc n text)).docText =
        "--  First.\n--\n--  Last.\n\n" := by
  decide +kernel

end GirAda
