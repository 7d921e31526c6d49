import Mathlib.Data.List.Chain
import GirAda.Doc.Comment

/-!
# Wrapped text and comment blocks

`wrap` cuts the words of a text into lines, greedily. Seen through the words, a wrapping is a
cutting of the word list into non-empty groups, each written with single spaces between its
words: no word is lost, split, repeated or moved. A group of two or more words fits the width,
and each line is as long as it can be: the next line's first word would not have fitted after
it. The loop of `wrap` keeps this for the words it has placed, the current line being the last
group (`wrapWords_groups`); reading the lines back into words (`words_spaced`) turns the
groups into the statement about lines.

A comment block writes the wrapped lines of each paragraph after the indent and `--  `. The
width left for the text is 79 columns less the prefix, but at least 20, so lines of several
words stay within 79 columns as long as the indent leaves 20 columns, that is up to 55 bytes.
Paragraphs without words give no lines, and are dropped before the separators go in.

Main statements: `wrap_breaks_greedily`, `comment_blocks`.
-/

namespace GirAda

/-! ## Words written with single spaces -/

namespace Text

/-- A word: a non-empty run of characters that are not blank. -/
def IsWord (w : List Char) : Prop := w ≠ [] ∧ ∀ c ∈ w, isBlank c = false

/-- A partial word, once ended, is a word. -/
theorem isWord_reverse {acc : List Char} (he : acc ≠ []) (hacc : ∀ c ∈ acc, isBlank c = false) :
    IsWord acc.reverse :=
  ⟨by simpa using he, by simpa using hacc⟩

/-- Reading the characters of a word only extends the partial word. -/
theorem wordsFrom_append_of_not_blank {w : List Char} (hw : ∀ c ∈ w, isBlank c = false)
    (acc cs : List Char) : wordsFrom acc (w ++ cs) = wordsFrom (w.reverse ++ acc) cs := by
  induction w generalizing acc with
  | nil => rfl
  | cons c w ih =>
    have hc : isBlank c = false := hw c (List.mem_cons_self ..)
    rw [List.cons_append, wordsFrom, hc]
    simp only [Bool.false_eq_true, if_false]
    rw [ih (fun d hd => hw d (List.mem_cons_of_mem c hd)) (c :: acc)]
    simp

/-- Words written with one space between them read back as the same words, on characters. -/
theorem wordsFrom_intercalate {ws : List (List Char)} (h : ∀ w ∈ ws, IsWord w) :
    wordsFrom [] ([' '].intercalate ws) = ws := by
  induction ws with
  | nil => rfl
  | cons w ws ih =>
    obtain ⟨hne, hw⟩ := h w (List.mem_cons_self ..)
    have ih := ih fun v hv => h v (List.mem_cons_of_mem w hv)
    cases ws with
    | nil =>
      rw [List.intercalate_singleton, ← List.append_nil w, wordsFrom_append_of_not_blank hw]
      simp [wordsFrom, hne]
    | cons v vs =>
      have hspace : isBlank ' ' = true := by decide
      rw [List.intercalate_cons_cons, List.append_assoc, wordsFrom_append_of_not_blank hw]
      simp [wordsFrom, hspace, hne, ih]

/-- Every word read from a text is a word, given a partial word of characters that are not
blank. -/
theorem isWord_of_mem_wordsFrom {acc cs : List Char} (hacc : ∀ c ∈ acc, isBlank c = false)
    {w : List Char} (hw : w ∈ wordsFrom acc cs) : IsWord w := by
  induction cs generalizing acc with
  | nil =>
    by_cases he : acc = [] <;> simp [wordsFrom, he] at hw
    subst hw
    exact isWord_reverse he hacc
  | cons c cs ih =>
    by_cases hc : isBlank c = true
    · by_cases he : acc = []
      · simp only [wordsFrom, hc, he, List.isEmpty_nil, if_true] at hw
        exact ih (by simp) hw
      · simp only [wordsFrom, hc, List.isEmpty_eq_false_iff.2 he, if_true, if_false,
          Bool.false_eq_true, List.mem_cons] at hw
        rcases hw with rfl | hw
        · exact isWord_reverse he hacc
        · exact ih (by simp) hw
    · -- the character extends the partial word
      simp only [Bool.not_eq_true] at hc
      simp only [wordsFrom, hc, Bool.false_eq_true, if_false] at hw
      exact ih (List.forall_mem_cons.2 ⟨hc, hacc⟩) hw

/-- The words of a text are words. -/
theorem isWord_of_mem_words {s w : String} (hw : w ∈ words s) : IsWord w.toList := by
  obtain ⟨cs, hcs, rfl⟩ := List.mem_map.1 hw
  rw [String.toList_ofList]
  exact isWord_of_mem_wordsFrom (by simp) hcs

/-- Words written with one space between them read back as the same words. -/
theorem words_spaced {ws : List String} (h : ∀ w ∈ ws, IsWord w.toList) :
    words (" ".intercalate ws) = ws := by
  have hchars : ∀ w ∈ ws.map String.toList, IsWord w := by simpa using h
  simp [words, wordChars, String.toList_intercalate, wordsFrom_intercalate hchars]

end Text

/-! ## Joining groups of words -/

section Spaced

theorem intercalate_append (s : String) {a b : List String} (ha : a ≠ []) (hb : b ≠ []) :
    s.intercalate (a ++ b) = s.intercalate a ++ s ++ s.intercalate b := by
  induction a with
  | nil => exact absurd rfl ha
  | cons x a ih =>
    cases a with
    | nil =>
      obtain ⟨y, b, rfl⟩ := List.exists_cons_of_ne_nil hb
      simp [String.intercalate_cons_cons]
    | cons y a =>
      rw [List.cons_append, List.cons_append, String.intercalate_cons_cons, ← List.cons_append,
        ih (List.cons_ne_nil y a), String.intercalate_cons_cons]
      simp [String.append_assoc]

/-- Writing each group with single spaces and then the lines with single spaces writes all
the words with single spaces. -/
theorem intercalate_map_intercalate (s : String) {gs : List (List String)} (h : ∀ g ∈ gs, g ≠ []) :
    s.intercalate (gs.map s.intercalate) = s.intercalate gs.flatten := by
  induction gs with
  | nil => rfl
  | cons g gs ih =>
    have hg : g ≠ [] := h g (List.mem_cons_self ..)
    have ih := ih fun g' hg' => h g' (List.mem_cons_of_mem g hg')
    cases gs with
    | nil => simp
    | cons g' gs =>
      have hflat : (g' :: gs).flatten ≠ [] := by
        rw [List.flatten_cons]
        exact List.append_ne_nil_of_left_ne_nil (h g' (by simp)) _
      have hsplit : (g :: g' :: gs).flatten = g ++ (g' :: gs).flatten := rfl
      rw [hsplit, intercalate_append s hg hflat, List.map_cons, List.map_cons,
        String.intercalate_cons_cons, ← List.map_cons, ih]

theorem utf8ByteSize_spaced_append {cur : List String} (hcur : cur ≠ []) (w : String) :
    (" ".intercalate (cur ++ [w])).utf8ByteSize = (" ".intercalate cur).utf8ByteSize + 1 + w.utf8ByteSize := by
  rw [intercalate_append " " hcur (List.cons_ne_nil w []), String.intercalate_singleton]
  simp only [String.utf8ByteSize_append]
  rfl

/-- Non-empty words written with single spaces make an empty text only when there are none. -/
theorem spaced_eq_empty_iff {ws : List String} (h : ∀ w ∈ ws, w ≠ "") :
    " ".intercalate ws = "" ↔ ws = [] := by
  cases ws with
  | nil => simp
  | cons w ws =>
    cases ws with
    | nil => simpa using h w (by simp)
    | cons v vs =>
      rw [String.intercalate_cons_cons, ← String.utf8ByteSize_eq_zero_iff]
      simp [String.utf8ByteSize_append]

theorem isEmpty_spaced {ws : List String} (h : ∀ w ∈ ws, w ≠ "") (hws : ws ≠ []) :
    (" ".intercalate ws).isEmpty = false := by
  simpa [String.isEmpty_iff] using (not_congr (spaced_eq_empty_iff h)).2 hws

end Spaced

namespace Doc

open Text

/-! ## The loop of `wrap` -/

/-- Line `h` comes after line `g` only because its first word would not fit after `g`. -/
def BreaksBefore (width : Nat) (g h : List String) : Prop :=
  width < (" ".intercalate g).utf8ByteSize + 1 + (h.head?.map String.utf8ByteSize).getD 0

/-- The groups of words of a wrapping at a width: they cut the words in order, none is empty,
those of two or more words fit, and each line ends only where the next word would not fit. -/
structure WrapsInto (width : Nat) (ws : List String) (groups : List (List String)) : Prop where
  flatten_eq : groups.flatten = ws
  ne_nil : ∀ g ∈ groups, g ≠ []
  fits : ∀ g ∈ groups, 2 ≤ g.length → (" ".intercalate g).utf8ByteSize ≤ width
  greedy : groups.IsChain (BreaksBefore width)

/-- The current line of the loop, one more word on it: the word alone on a new line, or after a
space. -/
theorem extend_current {cur : List String} (hne : ∀ v ∈ cur, v ≠ "") (w : String) :
    (if (" ".intercalate cur).isEmpty then w else " ".intercalate cur ++ " " ++ w) =
      " ".intercalate (cur ++ [w]) := by
  by_cases hcur : cur = []
  · simp [hcur]
  · rw [isEmpty_spaced hne hcur, intercalate_append " " hcur (List.cons_ne_nil w []), String.intercalate_singleton]
    rfl

/-- The loop of `wrap`, with the words `cur` on the current line: the lines it gives cut
`cur ++ ws` into groups as a wrapping does. -/
theorem wrapWords_groups (width : Nat) (ws : List String) :
    ∀ cur : List String, (∀ w ∈ cur ++ ws, w ≠ "") →
      (2 ≤ cur.length → (" ".intercalate cur).utf8ByteSize ≤ width) →
      ∃ groups, WrapsInto width (cur ++ ws) groups ∧
        wrapWords width (" ".intercalate cur) ws = groups.map (" ".intercalate ·) := by
  induction ws with
  | nil =>
    intro cur hne hfit
    by_cases hcur : cur = []
    · subst hcur
      exact ⟨[], ⟨rfl, by simp, by simp, .nil⟩, rfl⟩
    · refine ⟨[cur], ⟨by simp, by simpa using hcur, by simpa using hfit, .singleton _⟩, ?_⟩
      simp [wrapWords, isEmpty_spaced (by simpa using hne) hcur]
  | cons w ws ih =>
    intro cur hne hfit
    have hne' : ∀ v ∈ cur, v ≠ "" := fun v hv => hne v (List.mem_append_left _ hv)
    by_cases hbreak : (!(" ".intercalate cur).isEmpty && (" ".intercalate cur).utf8ByteSize + 1 +
        w.utf8ByteSize > width) = true
    · -- the word does not fit: the current line is done and the word starts the next one
      obtain ⟨groups, hw, heq⟩ := ih [w] (fun v hv => hne v (List.mem_append_right cur hv)) (by simp)
      rw [String.intercalate_singleton] at heq
      have hover : ¬" ".intercalate cur = "" ∧
          width < (" ".intercalate cur).utf8ByteSize + 1 + w.utf8ByteSize := by
        simpa using hbreak
      have hcur : cur ≠ [] := by
        rintro rfl
        exact hover.1 rfl
      have hfirst : ∀ y ∈ groups.head?, y.head? = some w := by
        intro y hy
        obtain ⟨gs, rfl⟩ : ∃ gs, groups = y :: gs := by
          cases groups with
          | nil => cases hy
          | cons g gs => exact ⟨gs, by simpa using hy⟩
        obtain ⟨v, g, rfl⟩ := List.exists_cons_of_ne_nil (hw.ne_nil y (List.mem_cons_self ..))
        have h := hw.flatten_eq
        simp only [List.flatten_cons, List.cons_append, List.cons.injEq] at h
        simp [h.1]
      refine ⟨cur :: groups, ⟨?_, List.forall_mem_cons.2 ⟨hcur, hw.ne_nil⟩,
        List.forall_mem_cons.2 ⟨hfit, hw.fits⟩, ?_⟩, ?_⟩
      · simp [hw.flatten_eq]
      · refine hw.greedy.cons fun y hy => ?_
        simp only [BreaksBefore, hfirst y hy, Option.map_some, Option.getD_some]
        exact hover.2
      · rw [wrapWords, if_pos hbreak, heq]
        rfl
    · -- the word fits, or is the first: it goes on the current line
      obtain ⟨groups, hw, heq⟩ := ih (cur ++ [w]) (by simpa using hne) (by
        intro hlen
        have hcur : cur ≠ [] := by
          rintro rfl
          simp at hlen
        rw [utf8ByteSize_spaced_append hcur]
        simpa [isEmpty_spaced hne' hcur] using hbreak)
      refine ⟨groups, by simpa using hw, ?_⟩
      rw [wrapWords, if_neg hbreak, extend_current hne', heq]

/-! ## Wrapped lines -/

theorem ne_empty_of_mem_words {text w : String} (hw : w ∈ words text) : w ≠ "" := by
  rintro rfl
  exact (isWord_of_mem_words hw).1 rfl

/-- The lines of a wrapped text are the groups of a wrapping of its words, each written with
single spaces, and each reads back as its group. -/
theorem wrap_groups (text : String) (width : Nat) :
    ∃ groups, WrapsInto width (words text) groups ∧
      wrap text width = groups.map (" ".intercalate ·) ∧
      ∀ g ∈ groups, words (" ".intercalate g) = g ∧ ∀ w ∈ g, w ∈ words text := by
  obtain ⟨groups, hw, heq⟩ :=
    wrapWords_groups width (words text) [] (by simpa using fun w => ne_empty_of_mem_words) (by simp)
  rw [List.nil_append] at hw
  rw [String.intercalate_nil] at heq
  refine ⟨groups, hw, heq, fun g hg => ?_⟩
  have hmem : ∀ w ∈ g, w ∈ words text := fun w hwg => by
    rw [← hw.flatten_eq]
    exact List.mem_flatten.2 ⟨g, hg, hwg⟩
  exact ⟨words_spaced fun w hwg => isWord_of_mem_words (hmem w hwg), hmem⟩

/-- A wrapped line of two or more words fits the width. -/
theorem utf8ByteSize_le_of_mem_wrap {text l : String} {width : Nat} (hl : l ∈ wrap text width)
    (hlen : 1 < (words l).length) : l.utf8ByteSize ≤ width := by
  obtain ⟨groups, hw, heq, hread⟩ := wrap_groups text width
  rw [heq] at hl
  obtain ⟨g, hg, rfl⟩ := List.mem_map.1 hl
  rw [(hread g hg).1] at hlen
  exact hw.fits g hg hlen

/-- A text has wrapped lines exactly when it has words. -/
theorem wrap_eq_nil_iff {text : String} {width : Nat} : wrap text width = [] ↔ words text = [] := by
  obtain ⟨groups, hw, heq, -⟩ := wrap_groups text width
  rw [heq, List.map_eq_nil_iff, ← hw.flatten_eq]
  constructor
  · rintro rfl
    rfl
  · intro h
    -- no group is empty, so no words means no groups
    cases groups with
    | nil => rfl
    | cons g gs =>
      rw [List.flatten_cons, List.append_eq_nil_iff] at h
      exact absurd h.1 (hw.ne_nil g (List.mem_cons_self ..))

/-- Wrapping keeps the words of a text, whole and in order, on non-empty lines that fit the width
when they hold two words or more, and it breaks greedily. -/
theorem wrap_breaks_greedily (text : String) (width : Nat) :
    let lines := wrap text width
    lines.flatMap words = words text ∧
    " ".intercalate lines = " ".intercalate (words text) ∧
    (∀ l ∈ lines, l ≠ "" ∧ " ".intercalate (words l) = l) ∧
    (∀ l ∈ lines, 1 < (words l).length → l.utf8ByteSize ≤ width) ∧
    lines.IsChain fun l l' =>
      width < l.utf8ByteSize + 1 + ((words l').head?.map String.utf8ByteSize).getD 0 := by
  intro lines
  obtain ⟨groups, hw, hlines, hread⟩ := wrap_groups text width
  replace hlines : lines = groups.map (" ".intercalate ·) := hlines
  refine ⟨?_, ?_, ?_, fun l hl => utf8ByteSize_le_of_mem_wrap hl, ?_⟩
  · rw [hlines, List.flatMap_map, List.flatMap_congr fun g hg => (hread g hg).1, List.flatMap_id',
      hw.flatten_eq]
  · rw [hlines, intercalate_map_intercalate " " hw.ne_nil, hw.flatten_eq]
  · intro l hl
    rw [hlines] at hl
    obtain ⟨g, hg, rfl⟩ := List.mem_map.1 hl
    obtain ⟨hwords, hmem⟩ := hread g hg
    refine ⟨fun h => hw.ne_nil g hg ?_, by rw [hwords]⟩
    exact (spaced_eq_empty_iff fun w hwg => ne_empty_of_mem_words (hmem w hwg)).1 h
  · -- the next line's first word, read back, is its group's first word
    rw [hlines, List.isChain_map]
    refine hw.greedy.imp_of_mem_imp fun g g' _ hg' hbreak => ?_
    rw [(hread g' hg').1]
    exact hbreak

/-! ## Comment blocks -/

/-- The width of the text of a comment line after an indent: 79 columns less the indent and
`--  `, and never less than 20. -/
theorem commentWidth_eq (indent : String) :
    commentWidth (indent ++ "--  ") = max (79 - (indent.utf8ByteSize + 4)) 20 := by
  simp only [commentWidth, maxLine, String.utf8ByteSize_append]
  rfl

/-- A paragraph gives comment lines exactly when it has words. -/
theorem commentLines_eq_empty_iff {indent p : String} :
    commentLines indent p = "" ↔ words p = [] := by
  rw [← @wrap_eq_nil_iff p (commentWidth (indent ++ "--  "))]
  unfold commentLines
  dsimp only
  cases wrap p (commentWidth (indent ++ "--  ")) with
  | nil => simp
  | cons l ls =>
    simp only [List.map_cons, String.join_cons, reduceCtorEq, iff_false]
    intro h
    have := congrArg String.utf8ByteSize h
    simp [String.utf8ByteSize_append] at this

/-- A comment block writes the wrapped lines of each paragraph with words after the indent and `--  `,
a bare `--` between paragraphs, and fits lines in 79 bytes when the indent is at most 55. -/
theorem comment_blocks (paragraphs : List String) (indent : String) :
    let width := max (79 - (indent.utf8ByteSize + 4)) 20
    comment paragraphs indent = (indent ++ "--\n").intercalate
      ((paragraphs.filter fun p => words p ≠ []).map fun p =>
        String.join ((wrap p width).map fun l => indent ++ "--  " ++ l ++ "\n")) ∧
    (indent.utf8ByteSize ≤ 55 → ∀ p ∈ paragraphs, ∀ l ∈ wrap p width, 1 < (words l).length →
      (indent ++ "--  " ++ l).utf8ByteSize ≤ 79) := by
  dsimp only
  refine ⟨?_, fun hindent p _ l hl hlen => ?_⟩
  · -- paragraphs without words are the ones whose comment lines are empty
    have hkept : paragraphs.filter ((fun t => !t.isEmpty) ∘ commentLines indent) =
        paragraphs.filter fun p => words p ≠ [] :=
      List.filter_congr fun p _ => by
        rw [Function.comp_apply, Bool.eq_iff_iff]
        simp [commentLines_eq_empty_iff]
    rw [comment, List.filter_map, hkept]
    congr 2
    funext p
    simp only [commentLines, commentWidth_eq]
  · have hfit := utf8ByteSize_le_of_mem_wrap hl hlen
    have hprefix : "--  ".utf8ByteSize = 4 := rfl
    simp only [String.utf8ByteSize_append, hprefix]
    omega

/- The bound on the indent is tight: after 56 bytes of indent the text keeps its 20 columns and a
line of two words reaches 80. -/
example :
    let indent := String.ofList (List.replicate 56 ' ')
    wrap "aaaaaaaaa bbbbbbbbbb" (max (79 - (indent.utf8ByteSize + 4)) 20) = ["aaaaaaaaa bbbbbbbbbb"] ∧
      (indent ++ "--  " ++ "aaaaaaaaa bbbbbbbbbb").utf8ByteSize = 80 := by
  decide

end Doc

end GirAda
