import GirAda.Ada.Render

/-!
# Profile layout

A profile goes on one line when it has no parameters or when that line, with room for its
terminator, fits in 79 bytes; otherwise each parameter gets a line of its own. The layout on
several lines writes its parameters by its own rule, not through `AdaParam.render`, yet the two
layouts differ only in their blanks: squeezing every run of blanks to one space gives the same
text. On several lines the names are padded, counting characters, to the widest name, counting
bytes; a name has no more characters than bytes, so every `:` after a name stands in one column.

`BlankVariant` relates texts that differ only in runs of blanks at the same places; it is closed
under concatenation and `squeeze` cannot tell its two sides apart.

Main statement: `profile_layout`.
-/

namespace GirAda.Text

section Squeeze

/- The class of blank characters is a parameter here: unfolding `isBlank` while comparing
terms is slow, and nothing below depends on which characters are blank. -/
variable (blank : Char → Bool)

/-- Squeeze the runs of blanks of a text to single spaces; `b` tells whether a blank came just
before the text. -/
def squeezeFrom : Bool → List Char → List Char
  | _, [] => []
  | b, c :: cs =>
    if blank c then (if b then squeezeFrom true cs else ' ' :: squeezeFrom true cs)
    else c :: squeezeFrom false cs

/-- Whether a text ends with a blank; `b` when it is empty. -/
def endsBlank : Bool → List Char → Bool
  | b, [] => b
  | _, c :: cs => endsBlank (blank c) cs

theorem endsBlank_cons (b : Bool) (c : Char) (cs : List Char) :
    endsBlank blank b (c :: cs) = endsBlank blank (blank c) cs := rfl

theorem endsBlank_append (b : Bool) (xs ys : List Char) :
    endsBlank blank b (xs ++ ys) = endsBlank blank (endsBlank blank b xs) ys := by
  induction xs generalizing b with
  | nil => rfl
  | cons c cs ih => exact ih (blank c)

variable {blank}

theorem squeezeFrom_cons_of_blank {c : Char} (hc : blank c = true) (b : Bool) (cs : List Char) :
    squeezeFrom blank b (c :: cs) = (if b then [] else [' ']) ++ squeezeFrom blank true cs := by
  cases b <;> simp [squeezeFrom, hc]

theorem squeezeFrom_cons_of_not_blank {c : Char} (hc : blank c = false) (b : Bool)
    (cs : List Char) : squeezeFrom blank b (c :: cs) = c :: squeezeFrom blank false cs := by
  simp [squeezeFrom, hc]

/-- What a text squeezes to does not depend on what follows it. -/
theorem squeezeFrom_append (b : Bool) (xs ys : List Char) :
    squeezeFrom blank b (xs ++ ys) =
      squeezeFrom blank b xs ++ squeezeFrom blank (endsBlank blank b xs) ys := by
  induction xs generalizing b with
  | nil => rfl
  | cons c cs ih =>
    rw [List.cons_append, endsBlank_cons]
    cases hc : blank c
    · rw [squeezeFrom_cons_of_not_blank hc, squeezeFrom_cons_of_not_blank hc, ih, List.cons_append]
    · rw [squeezeFrom_cons_of_blank hc, squeezeFrom_cons_of_blank hc, ih, List.append_assoc]

/-- A run of blanks squeezes to one space, or to nothing right after a blank. -/
theorem squeezeFrom_blanks {w : List Char} (hw : w ≠ []) (hb : ∀ c ∈ w, blank c = true)
    (b : Bool) :
    squeezeFrom blank b w = (if b then [] else [' ']) ∧ endsBlank blank b w = true := by
  induction w generalizing b with
  | nil => contradiction
  | cons c cs ih =>
    have hc : blank c = true := hb c (List.mem_cons_self ..)
    rw [squeezeFrom_cons_of_blank hc, endsBlank_cons, hc]
    cases cs with
    | nil => exact ⟨List.append_nil _, rfl⟩
    | cons d ds =>
      obtain ⟨hs, he⟩ := ih (List.cons_ne_nil d ds) (fun x hx => hb x (List.mem_cons_of_mem c hx)) true
      exact ⟨by simp [hs], he⟩

variable (blank)

/-- Texts that differ only in the runs of blanks they have at the same places. -/
inductive BlankVariant : List Char → List Char → Prop
  | refl (xs : List Char) : BlankVariant xs xs
  | blanks {w w' : List Char} : w ≠ [] → (∀ c ∈ w, blank c = true) → w' ≠ [] →
      (∀ c ∈ w', blank c = true) → BlankVariant w w'
  | append {xs xs' ys ys' : List Char} : BlankVariant xs xs' → BlankVariant ys ys' →
      BlankVariant (xs ++ ys) (xs' ++ ys')

variable {blank}

namespace BlankVariant

/-- The two sides of a variant squeeze alike and end alike, whatever came before them. -/
theorem squeezeFrom_eq {xs ys : List Char} (h : BlankVariant blank xs ys) (b : Bool) :
    squeezeFrom blank b xs = squeezeFrom blank b ys ∧
      endsBlank blank b xs = endsBlank blank b ys := by
  induction h generalizing b with
  | refl => exact ⟨rfl, rfl⟩
  | blanks hw hb hw' hb' =>
    obtain ⟨hs, he⟩ := squeezeFrom_blanks hw hb b
    obtain ⟨hs', he'⟩ := squeezeFrom_blanks hw' hb' b
    exact ⟨hs.trans hs'.symm, he.trans he'.symm⟩
  | append _ _ ih₁ ih₂ =>
    obtain ⟨hs₁, he₁⟩ := ih₁ b
    obtain ⟨hs₂, he₂⟩ := ih₂ (endsBlank blank b _)
    rw [squeezeFrom_append, squeezeFrom_append, endsBlank_append, endsBlank_append, hs₁, he₁]
    rw [he₁] at hs₂ he₂
    exact ⟨by rw [hs₂], he₂⟩

/-- One run of blanks in place of another, between the same texts. -/
theorem around (xs ys w w' : List Char) (hw : w ≠ [])
    (hb : ∀ c ∈ w, blank c = true) (hw' : w' ≠ []) (hb' : ∀ c ∈ w', blank c = true) :
    BlankVariant blank (xs ++ w ++ ys) (xs ++ w' ++ ys) :=
  ((refl xs).append (blanks hw hb hw' hb')).append (refl ys)

/-- Joining variants with variant separators gives variants. -/
theorem intercalate {sep sep' : List Char} (hs : BlankVariant blank sep sep') {α : Type}
    (f g : α → List Char) (xs : List α) (h : ∀ x ∈ xs, BlankVariant blank (f x) (g x)) :
    BlankVariant blank (sep.intercalate (xs.map f)) (sep'.intercalate (xs.map g)) := by
  induction xs with
  | nil => exact refl []
  | cons x xs ih =>
    have hx := h x (List.mem_cons_self ..)
    have hrest := ih fun y hy => h y (List.mem_cons_of_mem x hy)
    cases xs with
    | nil => simpa using hx
    | cons y ys =>
      simp only [List.map_cons, List.intercalate_cons_cons] at hrest ⊢
      exact (hx.append hs).append hrest

end BlankVariant

end Squeeze

/-- A text with every maximal run of blanks replaced by one space. -/
def squeeze (cs : List Char) : List Char := squeezeFrom isBlank false cs

theorem BlankVariant.squeeze_eq {xs ys : List Char} (h : BlankVariant isBlank xs ys) :
    squeeze xs = squeeze ys :=
  (h.squeezeFrom_eq false).1

theorem isBlank_space : isBlank ' ' = true := by decide

theorem isBlank_newline : isBlank '\n' = true := by decide

/-- Spaces are blanks. -/
theorem blanks_of_spaces {w : List Char} (h : ∀ c ∈ w, c = ' ') : ∀ c ∈ w, isBlank c = true :=
  fun c hc => (h c hc) ▸ isBlank_space

@[simp] theorem toList_spaces (n : Nat) : (spaces n).toList = List.replicate n ' ' := by
  simp [spaces]

@[simp] theorem length_spaces (n : Nat) : (spaces n).length = n := by
  simp [spaces, String.length_ofList]

/-- A text has no more characters than bytes. -/
theorem length_le_utf8ByteSize (s : String) : s.length ≤ s.utf8ByteSize := by
  induction s using String.push_induction with
  | empty => simp
  | push s c ih =>
    have := Char.utf8Size_pos c
    simp only [String.length_push, String.utf8ByteSize_push]
    omega

/-- An element of a list joined with separators, with what stands before and after it; what
stands before is empty or ends with a separator. -/
theorem exists_split_intercalate {α : Type} (sep : String) (f : α → String) {xs : List α} {x : α}
    (hx : x ∈ xs) : ∃ pre post, sep.intercalate (xs.map f) = pre ++ f x ++ post ∧
      (pre = "" ∨ ∃ pre', pre = pre' ++ sep) := by
  induction xs with
  | nil => simp at hx
  | cons y ys ih =>
    rcases List.mem_cons.1 hx with rfl | hx
    · cases ys with
      | nil => exact ⟨"", "", by simp, .inl rfl⟩
      | cons z zs =>
        exact ⟨"", sep ++ sep.intercalate ((z :: zs).map f),
          by simp [String.intercalate_cons_cons, String.append_assoc], .inl rfl⟩
    · obtain ⟨pre, post, hsplit, hpre⟩ := ih hx
      have hys : ys.map f ≠ [] := by simpa using List.ne_nil_of_mem hx
      refine ⟨f y ++ sep ++ pre, post, ?_, .inr ?_⟩
      · rw [List.map_cons, String.intercalate_cons_of_ne_nil hys, hsplit]
        simp [String.append_assoc]
      · rcases hpre with rfl | ⟨pre', rfl⟩
        · exact ⟨f y, by simp⟩
        · exact ⟨f y ++ sep ++ pre', by simp [String.append_assoc]⟩

end GirAda.Text

namespace GirAda.Ada

open GirAda.Text

section Layout

variable {indent : String}

/-- A text of spaces only, as the indent of a profile. -/
def Spaces (indent : String) : Prop := ∀ c ∈ indent.toList, c = ' '

theorem le_foldl_max (l : List Nat) (acc : Nat) :
    acc ≤ l.foldl max acc ∧ ∀ x ∈ l, x ≤ l.foldl max acc := by
  induction l generalizing acc with
  | nil => simp
  | cons y ys ih =>
    obtain ⟨h₁, h₂⟩ := ih (max acc y)
    simp only [List.foldl_cons, List.mem_cons, forall_eq_or_imp]
    exact ⟨by omega, by omega, h₂⟩

/-- Every name fits in the width of the widest, in characters as in bytes. -/
theorem length_le_nameWidth {ps : List AdaParam} {p : AdaParam} (hp : p ∈ ps) :
    p.name.length ≤ nameWidth ps :=
  Nat.le_trans (length_le_utf8ByteSize p.name)
    ((le_foldl_max _ 0).2 _ (List.mem_map_of_mem (f := fun q => q.name.utf8ByteSize) hp))

/-- The break before a parameter line: a line break, the indent and `extra` more spaces. -/
theorem blanks_lineBreak (h : Spaces indent) (extra : List Char) (he : ∀ c ∈ extra, c = ' ') :
    ∀ c ∈ '\n' :: (indent.toList ++ extra), isBlank c = true :=
  List.forall_mem_cons.2
    ⟨isBlank_newline, List.forall_mem_append.2 ⟨blanks_of_spaces h, blanks_of_spaces he⟩⟩

/-- A parameter line differs from the parameter's text by the padding after its name. -/
theorem blankVariant_paramLine (width : Nat) (p : AdaParam) :
    BlankVariant isBlank (paramLine width p).toList p.render.toList := by
  obtain ⟨D, hline, hrender⟩ : ∃ D, paramLine width p =
      padRight p.name width ++ " : " ++ p.mode.keyword ++ p.ty ++ D ∧
      p.render = p.name ++ " : " ++ p.mode.keyword ++ p.ty ++ D := by
    obtain ⟨name, mode, ty, default⟩ := p
    cases default <;> exact ⟨_, rfl, rfl⟩
  have hrun := BlankVariant.around p.name.toList (':' :: ' ' :: (p.mode.keyword ++ p.ty ++ D).toList)
    (List.replicate (width - p.name.length) ' ' ++ [' ']) [' '] (by simp)
    (blanks_of_spaces (by simp [or_imp])) (by simp) (blanks_of_spaces (by simp))
  rw [hline, hrender]
  simpa [padRight, List.append_assoc] using hrun

/-- The separator of parameter lines is `; ` with the blank stretched over a line break. -/
theorem blankVariant_separator (h : Spaces indent) :
    BlankVariant isBlank (";\n" ++ indent ++ "    ").toList "; ".toList := by
  have hsep := BlankVariant.around [';'] [] ('\n' :: (indent.toList ++ [' ', ' ', ' ', ' '])) [' ']
    (by simp) (blanks_lineBreak h _ (by simp)) (by simp) (blanks_of_spaces (by simp))
  simpa using hsep

/-- The two layouts of a profile differ only in their blanks. -/
theorem blankVariant_multiProfile (s : Subprogram) (h : Spaces indent) :
    BlankVariant isBlank (multiProfile s indent).toList (singleProfile s indent).toList := by
  have hparams := BlankVariant.intercalate (blankVariant_separator h)
    (fun p => (paramLine (nameWidth s.parameters) p).toList) (fun p => p.render.toList)
    s.parameters (fun p _ => blankVariant_paramLine _ p)
  -- the break before the opening parenthesis stands for the blank before it
  have hopen := BlankVariant.around (profileHead s indent).toList ['(']
    ('\n' :: (indent.toList ++ [' ', ' ', ' '])) [' '] (by simp) (blanks_lineBreak h _ (by simp))
    (by simp) (blanks_of_spaces (by simp))
  have hall := (hopen.append hparams).append (BlankVariant.refl ((")" ++ returnsClause s).toList))
  simpa [multiProfile, singleProfile, List.map_map, Function.comp_def, List.append_assoc] using hall

/-- The padded name field of a parameter line ends as many columns after its lead as the widest
name is wide. -/
theorem padded_field {ps : List AdaParam} {p : AdaParam} (hp : p ∈ ps)
    (hname : '\n' ∉ p.name.toList) (lead : String) (hlead : '\n' ∉ lead.toList) :
    let field := lead ++ p.name ++ spaces (nameWidth ps - p.name.length)
    '\n' ∉ field.toList ∧ field.length = lead.length + nameWidth ps := by
  have hw := length_le_nameWidth hp
  refine ⟨by simp [hlead, hname], ?_⟩
  simp only [String.length_append, length_spaces]
  omega

theorem newline_not_mem_of_spaces (h : Spaces indent) : '\n' ∉ indent.toList :=
  fun hn => absurd (h _ hn) (by decide)

/-- In the layout on several lines every parameter's line has its padded name field end at one
column, counted from the line break before it. -/
theorem colon_column (s : Subprogram) (h : Spaces indent)
    (hnames : ∀ p ∈ s.parameters, '\n' ∉ p.name.toList) {p : AdaParam} (hp : p ∈ s.parameters) :
    ∃ pre lead pad post : String,
      multiProfile s indent =
        pre ++ "\n" ++ (lead ++ p.name ++ pad) ++ " : " ++ p.mode.keyword ++ p.ty ++ post ∧
      '\n' ∉ (lead ++ p.name ++ pad).toList ∧
      (lead ++ p.name ++ pad).length = indent.length + 4 + nameWidth s.parameters ∧
      ∀ c ∈ pad.toList, c = ' ' := by
  obtain ⟨A, B, hsplit, hA⟩ :=
    exists_split_intercalate (";\n" ++ indent ++ "    ") (paramLine (nameWidth s.parameters)) hp
  obtain ⟨D, hD⟩ : ∃ D, paramLine (nameWidth s.parameters) p =
      padRight p.name (nameWidth s.parameters) ++ " : " ++ p.mode.keyword ++ p.ty ++ D := ⟨_, rfl⟩
  have hindent := newline_not_mem_of_spaces h
  have hpad : ∀ c ∈ (spaces (nameWidth s.parameters - p.name.length)).toList, c = ' ' := by simp
  rcases hA with rfl | ⟨A', rfl⟩
  · obtain ⟨hnl, hcol⟩ := padded_field hp (hnames p hp) (indent ++ "   (") (by simp [hindent])
    have hlead : (indent ++ "   (").length = indent.length + 4 := by simp; decide
    rw [hlead] at hcol
    refine ⟨profileHead s indent, indent ++ "   (", _, D ++ B ++ ")" ++ returnsClause s, ?_, hnl,
      hcol, hpad⟩
    simp only [multiProfile]
    rw [hsplit, hD]
    simp only [padRight, String.append_assoc, String.empty_append]
  · obtain ⟨hnl, hcol⟩ := padded_field hp (hnames p hp) (indent ++ "    ") (by simp [hindent])
    have hlead : (indent ++ "    ").length = indent.length + 4 := by simp; decide
    rw [hlead] at hcol
    refine ⟨profileHead s indent ++ "\n" ++ indent ++ "   (" ++ A' ++ ";", indent ++ "    ", _,
      D ++ B ++ ")" ++ returnsClause s, ?_, hnl, hcol, hpad⟩
    simp only [multiProfile]
    rw [hsplit, hD, show (";\n" : String) = ";" ++ "\n" from rfl]
    simp only [padRight, String.append_assoc]

theorem multiProfile_ne_singleProfile (s : Subprogram) (indent : String) :
    multiProfile s indent ≠ singleProfile s indent := by
  intro heq
  have := congrArg String.toList heq
  simp [multiProfile, singleProfile] at this

theorem fitsOnLine_iff (s : Subprogram) (indent : String) :
    fitsOnLine s indent = true ↔
      s.parameters = [] ∨ (singleProfile s indent).utf8ByteSize + 3 ≤ 79 := by
  simp [fitsOnLine, Doc.maxLine]

theorem lineProfile_of_ne_nil {s : Subprogram} (h : s.parameters ≠ []) :
    lineProfile s indent = singleProfile s indent := by
  simp [lineProfile, h]

end Layout

/-- A profile is written on one line exactly when it fits in 79 bytes, and otherwise on several lines
whose padded names end at one column; the two layouts differ only in their blanks. -/
theorem profile_layout (s : Subprogram) (indent : String) (hindent : Spaces indent) :
    (profile s indent = lineProfile s indent ↔
      s.parameters = [] ∨ (singleProfile s indent).utf8ByteSize + 3 ≤ 79) ∧
    (¬(s.parameters = [] ∨ (singleProfile s indent).utf8ByteSize + 3 ≤ 79) →
      profile s indent = multiProfile s indent) ∧
    squeeze (multiProfile s indent).toList = squeeze (singleProfile s indent).toList ∧
    ((∀ p ∈ s.parameters, '\n' ∉ p.name.toList) → ∀ p ∈ s.parameters,
      ∃ pre lead pad post : String,
        multiProfile s indent =
          pre ++ "\n" ++ (lead ++ p.name ++ pad) ++ " : " ++ p.mode.keyword ++ p.ty ++ post ∧
        '\n' ∉ (lead ++ p.name ++ pad).toList ∧
        (lead ++ p.name ++ pad).length = indent.length + 4 + nameWidth s.parameters ∧
        ∀ c ∈ pad.toList, c = ' ') := by
  have hmulti : fitsOnLine s indent = false → profile s indent = multiProfile s indent := by
    intro h
    simp [profile, h]
  refine ⟨?_, fun h => hmulti (Bool.eq_false_iff.2 fun h' => h ((fitsOnLine_iff s indent).1 h')),
    BlankVariant.squeeze_eq (blankVariant_multiProfile s hindent), fun hnames p hp => colon_column s hindent hnames hp⟩
  rw [← fitsOnLine_iff]
  cases hfit : fitsOnLine s indent
  · have hne : s.parameters ≠ [] := fun hnil => by simp [fitsOnLine, hnil] at hfit
    rw [hmulti hfit, lineProfile_of_ne_nil hne]
    simp [multiProfile_ne_singleProfile]
  · simp [profile, hfit]

/-- The profile of the test document's `Get_Label_Align` goes on several lines. -/
theorem get_label_align_layout :
    let s : Subprogram := ⟨"Get_Label_Align", [⟨"Self", .accessMode, "Gtk_Frame_Record", none⟩,
      ⟨"Xalign", .outMode, "Gfloat", none⟩, ⟨"Yalign", .outMode, "Gfloat", none⟩], some "Boolean",
      [], .noBody⟩
    Spaces "   " ∧
    (profile s "   " = lineProfile s "   " ↔
      s.parameters = [] ∨ (singleProfile s "   ").utf8ByteSize + 3 ≤ 79) ∧
    (¬(s.parameters = [] ∨ (singleProfile s "   ").utf8ByteSize + 3 ≤ 79) →
      profile s "   " = multiProfile s "   ") ∧
    squeeze (multiProfile s "   ").toList = squeeze (singleProfile s "   ").toList ∧
    ((∀ p ∈ s.parameters, '\n' ∉ p.name.toList) → ∀ p ∈ s.parameters,
      ∃ pre lead pad post : String,
        multiProfile s "   " =
          pre ++ "\n" ++ (lead ++ p.name ++ pad) ++ " : " ++ p.mode.keyword ++ p.ty ++ post ∧
        '\n' ∉ (lead ++ p.name ++ pad).toList ∧
        (lead ++ p.name ++ pad).length = "   ".length + 4 + nameWidth s.parameters ∧
        ∀ c ∈ pad.toList, c = ' ') :=
  ⟨by simp [Spaces], profile_layout _ _ (by simp [Spaces])⟩

example : profile ⟨"Get_Label_Align", [⟨"Self", .accessMode, "Gtk_Frame_Record", none⟩,
      ⟨"Xalign", .outMode, "Gfloat", none⟩, ⟨"Yalign", .outMode, "Gfloat", none⟩], some "Boolean",
      [], .noBody⟩ "" =
    "function Get_Label_Align\n   (Self   : access Gtk_Frame_Record;\n    Xalign : out Gfloat;\n" ++
      "    Yalign : out Gfloat) return Boolean" := by decide +kernel

end GirAda.Ada
