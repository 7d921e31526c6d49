import GirAda.Ada.Naming

/-!
# Native spellings of a name

Native names spell one name in several ways: `window-type`, `window_type`, ` window.type ` and
`WindowType`. `Naming.case` gives all of them the same Ada name, `Window_Type`, for every table of
exceptions. This module proves it for names made of plain words: an ASCII small letter followed
by small letters and digits, as native names write them.

Reading a name, `wordsFrom` ends a word at every run of separators and, inside a word, before a
capital that follows a small letter or a digit. A plain word has no separator and no capital, so
reading it only extends the word being read (`wordsFrom_append_of_inner`); a run of separators
ends the word (`wordsFrom_append_of_separators`), and in the CamelCase spelling the capital of
each word after the first follows the last small letter or digit of the word before it, which is
why every word but the last needs two characters (`wordsFrom_camel`). Capitalizing the words
found gives the same text in both cases (`capitalize_of_plainWord`, `capitalize_capFirst`).

Parameter names avoid the reserved words: `The_` goes in front of one, and no reserved word has
an underscore (`isReserved_parameter`).

Main statement: `case_of_native_spellings`.
-/

namespace GirAda.Ada

open GirAda.Text

/-! ## Plain words -/

/-- A character of a plain word after its first: an ASCII small letter or digit. -/
def isPlainChar (c : Char) : Bool := isAsciiLower c || isAsciiDigit c

/-- A word as native names write it: an ASCII small letter, then small letters and digits. -/
def isPlainWord : List Char → Bool
  | [] => false
  | c :: cs => isAsciiLower c && cs.all isPlainChar

/-- The word with its first letter in upper case. -/
def capFirst : List Char → List Char
  | [] => []
  | c :: cs => c.toUpper :: cs

/-! ## ASCII characters -/

theorem toNat_lt_of_le {c d : Char} (h : c ≤ d) (hd : d.toNat < 128) : c.toNat < 128 := by
  rw [Char.le_def, UInt32.le_iff_toNat_le] at h
  exact Nat.lt_of_le_of_lt h hd

theorem toNat_lt_of_isAsciiLower {c : Char} (h : isAsciiLower c = true) : c.toNat < 128 := by
  simp only [isAsciiLower, Bool.and_eq_true, decide_eq_true_eq] at h
  exact toNat_lt_of_le h.2 (by decide)

theorem toNat_lt_of_isPlainChar {c : Char} (h : isPlainChar c = true) : c.toNat < 128 := by
  simp only [isPlainChar, isAsciiLower, isAsciiDigit, Bool.or_eq_true, Bool.and_eq_true,
    decide_eq_true_eq] at h
  rcases h with h | h
  · exact toNat_lt_of_le h.2 (by decide)
  · exact toNat_lt_of_le h.2 (by decide)

/-- What reading and casing see of a small letter that starts a plain word, and of its
capital. -/
theorem facts_of_isAsciiLower {c : Char} (h : isAsciiLower c = true) :
    isSeparator c = false ∧ isUpper c = false ∧ isSeparator c.toUpper = false ∧
      isUpper c.toUpper = true ∧ upperCase c = [c.toUpper] ∧ upperCase c.toUpper = [c.toUpper] := by
  have hc := toNat_lt_of_isAsciiLower h
  revert h
  rw [← Char.ofNat_toNat c]
  generalize c.toNat = n at hc
  revert n
  decide

/-- What reading and casing see of a small letter or a digit. -/
theorem facts_of_isPlainChar {d : Char} (h : isPlainChar d = true) :
    isSeparator d = false ∧ isUpper d = false ∧ (isLower d || isAsciiDigit d) = true ∧
      lowerCase d = [d] := by
  have hd := toNat_lt_of_isPlainChar h
  revert h
  rw [← Char.ofNat_toNat d]
  generalize d.toNat = n at hd
  revert n
  decide

/-- No character of a plain word separates words or is a capital. -/
theorem inner_of_isPlainWord {w : List Char} (hw : isPlainWord w = true) :
    ∀ d ∈ w, isSeparator d = false ∧ isUpper d = false := by
  cases w with
  | nil => cases hw
  | cons c cs =>
    simp only [isPlainWord, Bool.and_eq_true, List.all_eq_true] at hw
    intro d hd
    rcases List.mem_cons.1 hd with rfl | hd
    · exact ⟨(facts_of_isAsciiLower hw.1).1, (facts_of_isAsciiLower hw.1).2.1⟩
    · exact ⟨(facts_of_isPlainChar (hw.2 d hd)).1, (facts_of_isPlainChar (hw.2 d hd)).2.1⟩

theorem flatMap_lowerCase {cs : List Char} (h : ∀ d ∈ cs, isPlainChar d = true) :
    cs.flatMap lowerCase = cs := by
  induction cs with
  | nil => rfl
  | cons d cs ih =>
    rw [List.flatMap_cons, (facts_of_isPlainChar (h d (List.mem_cons_self ..))).2.2.2,
      ih fun e he => h e (List.mem_cons_of_mem d he)]
    rfl

/-- A plain word capitalizes to the word with its first letter in upper case. -/
theorem capitalize_of_plainWord {w : List Char} (hw : isPlainWord w = true) :
    capitalize (String.ofList w) = String.ofList (capFirst w) := by
  cases w with
  | nil => cases hw
  | cons c cs =>
    simp only [isPlainWord, Bool.and_eq_true, List.all_eq_true] at hw
    simp [capitalize, String.toList_ofList, (facts_of_isAsciiLower hw.1).2.2.2.2.1,
      flatMap_lowerCase hw.2, capFirst]

/-- A plain word with its first letter in upper case capitalizes to itself. -/
theorem capitalize_capFirst {w : List Char} (hw : isPlainWord w = true) :
    capitalize (String.ofList (capFirst w)) = String.ofList (capFirst w) := by
  cases w with
  | nil => cases hw
  | cons c cs =>
    simp only [isPlainWord, Bool.and_eq_true, List.all_eq_true] at hw
    simp [capitalize, String.toList_ofList, (facts_of_isAsciiLower hw.1).2.2.2.2.2,
      flatMap_lowerCase hw.2, capFirst]

/-! ## Reading words -/

theorem getLast?_cons_or (d : Char) (w : List Char) (prev : Option Char) :
    (d :: w).getLast?.or prev = w.getLast?.or (some d) := by
  cases h : w.getLast? <;> simp [List.getLast?_cons, h]

/-- Characters that neither separate words nor are capitals only extend the word being read. -/
theorem wordsFrom_append_of_inner {w : List Char}
    (hw : ∀ d ∈ w, isSeparator d = false ∧ isUpper d = false) (prev : Option Char)
    (cur rest : List Char) :
    wordsFrom prev cur (w ++ rest) = wordsFrom (w.getLast?.or prev) (w.reverse ++ cur) rest := by
  induction w generalizing prev cur with
  | nil => simp
  | cons d w ih =>
    obtain ⟨hsep, hup⟩ := hw d (List.mem_cons_self ..)
    rw [List.cons_append, wordsFrom, if_neg (by simp [hsep]), if_neg (by simp [startsWord, hup]),
      ih (fun e he => hw e (List.mem_cons_of_mem d he)), getLast?_cons_or]
    simp

/-- A run of separators ends the word being read. -/
theorem wordsFrom_append_of_separators {g : List Char} (hg : ∀ c ∈ g, isSeparator c = true)
    (hne : g ≠ []) (prev : Option Char) (cur rest : List Char) :
    wordsFrom prev cur (g ++ rest) =
      (if cur.isEmpty then [] else [cur.reverse]) ++ wordsFrom g.getLast? [] rest := by
  induction g generalizing prev cur with
  | nil => exact absurd rfl hne
  | cons s g ih =>
    rw [List.cons_append, wordsFrom, if_pos (hg s (List.mem_cons_self ..))]
    have hrest : wordsFrom (some s) [] (g ++ rest) = wordsFrom (s :: g).getLast? [] rest := by
      cases g with
      | nil => rfl
      | cons t g =>
        rw [ih (fun c hc => hg c (List.mem_cons_of_mem s hc)) (List.cons_ne_nil _ _)]
        simp [List.getLast?_cons]
    split <;> simp [hrest]

/-- Separators at the start are skipped. -/
theorem wordsFrom_leading {g : List Char} (hg : ∀ c ∈ g, isSeparator c = true)
    (prev : Option Char) (rest : List Char) :
    wordsFrom prev [] (g ++ rest) = wordsFrom (g.getLast?.or prev) [] rest := by
  cases g with
  | nil => rfl
  | cons s g =>
    rw [wordsFrom_append_of_separators hg (List.cons_ne_nil _ _)]
    simp [List.getLast?_cons]

/-- Separators at the end end the last word. -/
theorem wordsFrom_trailing {g : List Char} (hg : ∀ c ∈ g, isSeparator c = true)
    (prev : Option Char) (cur : List Char) :
    wordsFrom prev cur g = if cur.isEmpty then [] else [cur.reverse] := by
  cases g with
  | nil => rfl
  | cons s g =>
    rw [← List.append_nil (s :: g), wordsFrom_append_of_separators hg (List.cons_ne_nil _ _)]
    simp [wordsFrom]

/-- Plain words, each after a run of separators, then a last run: the word being read, then
those words. -/
theorem wordsFrom_runs (rest : List (List Char × List Char)) {trail : List Char}
    (hrest : ∀ x ∈ rest, isPlainWord x.2 = true ∧ x.1 ≠ [] ∧ ∀ c ∈ x.1, isSeparator c = true)
    (htrail : ∀ c ∈ trail, isSeparator c = true) (prev : Option Char) {cur : List Char}
    (hcur : cur ≠ []) :
    wordsFrom prev cur (rest.flatMap (fun x => x.1 ++ x.2) ++ trail) =
      cur.reverse :: rest.map Prod.snd := by
  induction rest generalizing prev cur with
  | nil => simp [wordsFrom_trailing htrail, hcur]
  | cons x rest ih =>
    obtain ⟨hw, hne, hsep⟩ := hrest x (List.mem_cons_self ..)
    have hwne : x.2 ≠ [] := fun h => by simp [h, isPlainWord] at hw
    rw [List.flatMap_cons, List.append_assoc, List.append_assoc,
      wordsFrom_append_of_separators hsep hne, wordsFrom_append_of_inner (inner_of_isPlainWord hw),
      ih (fun y hy => hrest y (List.mem_cons_of_mem x hy)) _ (by simpa using hwne)]
    simp [hcur]

/-- A capital starts a word when no word is being read, or after a small letter or a digit; the
word being read, if there is one, ends there. -/
theorem wordsFrom_capital {prev : Option Char} {cur : List Char} {c : Char}
    (hsep : isSeparator c = false) (hup : isUpper c = true)
    (hstart : cur = [] ∨ ∃ p, prev = some p ∧ (isLower p || isAsciiDigit p) = true)
    (rest : List Char) :
    wordsFrom prev cur (c :: rest) =
      (if cur.isEmpty then [] else [cur.reverse]) ++ wordsFrom (some c) [c] rest := by
  rw [wordsFrom, if_neg (by simp [hsep])]
  rcases hstart with rfl | ⟨p, rfl, hp⟩
  · simp
  · by_cases hcur : cur = []
    · simp [hcur]
    · simp [startsWord, hup, hp, hcur]

/-- Plain words in CamelCase, each with its first letter in upper case: when no word is being
read, or the character before is a small letter or a digit, the capital of each word starts a
new word, so the words read back as they were written. -/
theorem wordsFrom_camel (ws : List (List Char)) (hw : ∀ w ∈ ws, isPlainWord w = true)
    (hlen : ∀ w ∈ ws.dropLast, 2 ≤ w.length) (prev : Option Char) (cur : List Char)
    (hstart : cur = [] ∨ ∃ p, prev = some p ∧ (isLower p || isAsciiDigit p) = true) :
    wordsFrom prev cur (ws.flatMap capFirst) =
      (if cur.isEmpty then [] else [cur.reverse]) ++ ws.map capFirst := by
  induction ws generalizing prev cur with
  | nil => simp [wordsFrom]
  | cons w ws ih =>
    obtain ⟨c, cs, rfl⟩ : ∃ c cs, w = c :: cs := List.exists_cons_of_ne_nil fun h => by
      simpa [h, isPlainWord] using hw w (List.mem_cons_self ..)
    have hword := hw (c :: cs) (List.mem_cons_self ..)
    simp only [isPlainWord, Bool.and_eq_true, List.all_eq_true] at hword
    obtain ⟨-, -, hsepC, hupC, -, -⟩ := facts_of_isAsciiLower hword.1
    have hinner : ∀ d ∈ cs, isSeparator d = false ∧ isUpper d = false := fun d hd =>
      ⟨(facts_of_isPlainChar (hword.2 d hd)).1, (facts_of_isPlainChar (hword.2 d hd)).2.1⟩
    rw [List.flatMap_cons, capFirst, List.cons_append, wordsFrom_capital hsepC hupC hstart,
      wordsFrom_append_of_inner hinner]
    cases ws with
    | nil => simp [wordsFrom, capFirst]
    | cons v vs =>
      -- a word followed by another has a last small letter or digit, after its capital
      have hcs : cs ≠ [] := by
        have := hlen (c :: cs) (by simp)
        rintro rfl
        simp at this
      obtain ⟨q, hq⟩ : ∃ q, cs.getLast? = some q := Option.isSome_iff_exists.1
        (by simpa [List.getLast?_isSome] using hcs)
      have hqcs : q ∈ cs := List.mem_of_getLast? hq
      rw [ih (fun u hu => hw u (List.mem_cons_of_mem _ hu))
        (fun u hu => hlen u (by simp [List.dropLast_cons_of_ne_nil (List.cons_ne_nil v vs), hu]))
        _ _ (.inr ⟨q, by simp [hq], (facts_of_isPlainChar (hword.2 q hqcs)).2.2.1⟩)]
      simp [capFirst]

/-! ## Reserved words -/

theorem underscore_not_mem_reservedWords : ∀ r ∈ reservedWords, '_' ∉ r.toList := by decide

/-- A name with an underscore, in any case, is no reserved word. -/
theorem isReserved_of_underscore {s : String} (h : '_' ∈ s.toList) : isReserved s = false := by
  rw [isReserved, Bool.eq_false_iff]
  intro hres
  have hmem : asciiLower s ∈ reservedWords := by simpa using hres
  refine underscore_not_mem_reservedWords _ hmem ?_
  simpa [asciiLower, String.toList_ofList] using List.mem_map_of_mem (f := Char.toLower) h

/-- A parameter name is never a reserved word. -/
theorem isReserved_parameter (n : Naming) (name : String) : isReserved (n.parameter name) = false := by
  unfold Naming.parameter
  dsimp only
  split
  · exact isReserved_of_underscore (by simp [String.toList_append])
  · next h => exact Bool.eq_false_iff.2 h

/-! ## The Ada spelling -/

/-- A name whose words read back as some words, each capitalizing as with `capFirst`, has the Ada
spelling of those words. -/
theorem case_of_splitWords {n : Naming} {s : String} {ws : List (List Char)}
    {f : List Char → String} (hsplit : splitWords s = ws.map f)
    (hcap : ∀ v ∈ ws, capitalize (f v) = String.ofList (capFirst v)) :
    n.case s = n.except ("_".intercalate (ws.map fun v => n.except (String.ofList (capFirst v)))) := by
  rw [Naming.case, hsplit, List.map_map]
  exact congrArg n.except (congrArg _ (List.map_congr_left fun v hv => by simp [hcap v hv]))

/-- Every native spelling of a name of plain words, separated or in CamelCase, reads to the same Ada
name; a parameter name is never a reserved word, in any ASCII case. -/
theorem case_of_native_spellings (n : Naming) (w : List Char) (rest : List (List Char × List Char))
    (lead trail : List Char) :
    let ws := w :: rest.map Prod.snd
    let cased := n.except ("_".intercalate (ws.map fun v => n.except (String.ofList (capFirst v))))
    (isPlainWord w = true → (∀ x ∈ rest, isPlainWord x.2 = true ∧ x.1 ≠ [] ∧
        ∀ c ∈ x.1, isSeparator c = true) → (∀ c ∈ lead, isSeparator c = true) →
      (∀ c ∈ trail, isSeparator c = true) →
      n.case (String.ofList (lead ++ w ++ rest.flatMap (fun x => x.1 ++ x.2) ++ trail)) = cased) ∧
    ((∀ v ∈ ws, isPlainWord v = true) → (∀ v ∈ ws.dropLast, 2 ≤ v.length) →
      n.case (String.ofList (ws.flatMap capFirst)) = cased) ∧
    ∀ name, isReserved (n.parameter name) = false ∧
      n.parameter name = if isReserved (n.case name) then "The_" ++ n.case name else n.case name := by
  intro ws cased
  refine ⟨fun hw hrest hlead htrail => ?_, fun hws hlen => ?_,
    fun name => ⟨isReserved_parameter n name, rfl⟩⟩
  · -- the separated spelling reads back as its words, which capitalize as `capFirst` does
    have hread :
        splitWords (String.ofList (lead ++ w ++ rest.flatMap (fun x => x.1 ++ x.2) ++ trail)) =
          ws.map String.ofList := by
      have hwne : w ≠ [] := fun h => by simp [h, isPlainWord] at hw
      rw [splitWords, String.toList_ofList, List.append_assoc, List.append_assoc,
        wordsFrom_leading hlead, wordsFrom_append_of_inner (inner_of_isPlainWord hw),
        wordsFrom_runs rest hrest htrail _ (by simpa using hwne)]
      simp [ws]
    have hplain : ∀ v ∈ ws, isPlainWord v = true := by
      simp only [ws, List.mem_cons, List.mem_map]
      rintro v (rfl | ⟨x, hx, rfl⟩)
      · exact hw
      · exact (hrest x hx).1
    exact case_of_splitWords hread fun v hv => capitalize_of_plainWord (hplain v hv)
  · -- the CamelCase spelling reads back as the words with their capitals
    have hread : splitWords (String.ofList (ws.flatMap capFirst)) =
        ws.map (fun v => String.ofList (capFirst v)) := by
      rw [splitWords, String.toList_ofList, wordsFrom_camel ws hws hlen none [] (.inl rfl)]
      simp
    exact case_of_splitWords hread fun v hv => capitalize_capFirst (hws v hv)

end GirAda.Ada
