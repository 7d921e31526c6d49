import GirAda.Ada.Package
import GirAda.Proofs.Index

/-!
# Sections of a package

A package keeps the sections of its public part in a fixed order, whatever order they are asked
for in: the types (the section without a name), constructors, methods, properties and signals,
then every other section in the order it was first asked for. There is one section per name, and
a section holds exactly the blocks added to it, in the order they were added.

A package changes only through its operations, written here as `Package.Edit`s. The invariant
`SectionsFollow es` ties a list of sections to a history `es` of edits: the names asked for and
the blocks added under each. A new package has it and every edit keeps it
(`SectionsFollow.apply`), so every package reached by edits has it, and its specification
lists its sections by name alone.
-/

namespace GirAda.Ada

open GirAda.Gir

/-- A change made to a package through one of its operations. -/
inductive Package.Edit where
  | setDoc (doc : String)
  | addWith (other : String)
  | openSection (name : String)
  | addTo (name text : String)
  | addPrivate (text : String)
  | addBody (text : String)
  deriving DecidableEq, Repr

namespace Package.Edit

/-- The operation an edit stands for. -/
def apply : Edit → Package → Package
  | setDoc d, p => p.setDoc d
  | addWith o, p => p.addWith o
  | openSection n, p => p.openSection n
  | addTo n t, p => p.addTo n t
  | addPrivate t, p => p.addPrivate t
  | addBody t, p => p.addBody t

/-- The section an edit asks for, if it asks for one. -/
def asked? : Edit → Option String
  | openSection n | addTo n _ => some n
  | setDoc _ | addWith _ | addPrivate _ | addBody _ => none

/-- The block an edit adds to the section of name `n`, if any. -/
def blockFor? (n : String) : Edit → Option String
  | addTo m t => if m = n then some t else none
  | setDoc _ | addWith _ | openSection _ | addPrivate _ | addBody _ => none

end Package.Edit

/-- A package after a list of edits, made in order. -/
def Package.applyEdits (p : Package) (es : List Package.Edit) : Package :=
  es.foldl (fun p e => e.apply p) p

@[simp] theorem Package.applyEdits_nil (p : Package) : p.applyEdits [] = p := rfl

@[simp] theorem Package.applyEdits_cons (p : Package) (e : Package.Edit) (es : List Package.Edit) :
    p.applyEdits (e :: es) = (e.apply p).applyEdits es := rfl

@[simp] theorem Package.applyEdits_append (p : Package) (es es' : List Package.Edit) :
    p.applyEdits (es ++ es') = (p.applyEdits es).applyEdits es' := by
  simp [Package.applyEdits, List.foldl_append]

/-! ## What a history of edits adds

Each part of a package is built by the edits of one kind: the sections asked for, the blocks of
one section, the `with` clauses, the private and body blocks, the documentation. A selector picks
from an edit what it adds to one part, and the trace of a history through a selector is what the
history added there, in order; the laws below hold whatever the selector. -/

namespace Package.Edit

variable {β γ : Type} (sel : Edit → Option β)

/-- What a history of edits adds through the edits that `sel` picks, in order. -/
def trace (es : List Edit) : List β := es.filterMap sel

@[simp] theorem trace_nil : trace sel [] = [] := rfl

@[simp] theorem trace_cons (e : Edit) (es : List Edit) :
    trace sel (e :: es) = (sel e).toList ++ trace sel es := by
  cases h : sel e <;> simp [trace, h]

@[simp] theorem trace_append (es es' : List Edit) :
    trace sel (es ++ es') = trace sel es ++ trace sel es' := List.filterMap_append

@[simp] theorem trace_map (xs : List γ) (f : γ → Edit) :
    trace sel (xs.map f) = xs.filterMap fun x => sel (f x) := by
  simp [trace, List.filterMap_map]

theorem trace_flatMap (xs : List γ) (f : γ → List Edit) :
    trace sel (xs.flatMap f) = xs.flatMap fun x => trace sel (f x) := List.filterMap_flatMap

end Package.Edit

/-- A selector that picks nothing from a list of edits of one kind sees nothing. -/
@[simp] theorem filterMap_const_none {β γ : Type} (xs : List γ) :
    xs.filterMap (fun _ => (none : Option β)) = [] :=
  List.filterMap_eq_nil_iff.2 fun _ _ => rfl

@[simp] theorem flatMap_const_nil {β γ : Type} (xs : List γ) :
    xs.flatMap (fun _ => ([] : List β)) = [] :=
  List.flatMap_eq_nil_iff.2 fun _ _ => rfl

/-- The section names a history of edits asked for, in order and with repeats. -/
@[simp] def askedSections (es : List Package.Edit) : List String :=
  Package.Edit.trace Package.Edit.asked? es

/-- The blocks a history of edits added to the section of a name, in order. -/
@[simp] def addedBlocks (es : List Package.Edit) (n : String) : List String :=
  Package.Edit.trace (Package.Edit.blockFor? n) es

/-- Blocks are only ever added to a section that is asked for. -/
theorem addedBlocks_eq_nil {es : List Package.Edit} {n : String} (h : n ∉ askedSections es) :
    addedBlocks es n = [] := by
  induction es with
  | nil => rfl
  | cons e es ih =>
    have hrest : n ∉ askedSections es := fun h' => h (by
      simpa [askedSections] using Or.inr h')
    cases e with
    | addTo m t =>
      have hm : m ≠ n := fun hm => h (by simp [askedSections, Package.Edit.asked?, hm])
      simp [addedBlocks, Package.Edit.blockFor?, hm] at ih ⊢
      exact ih hrest
    | _ => simpa [addedBlocks, Package.Edit.blockFor?] using ih hrest

/-! ## Ranks and placement -/

theorem sectionRank_le (n : String) : sectionRank n ≤ sectionOrder.length :=
  List.idxOf_le_length

theorem sectionRank_of_not_mem {n : String} (h : n ∉ sectionOrder) :
    sectionRank n = sectionOrder.length :=
  List.idxOf_eq_length h

/-- Placing a section only moves it into the list. -/
theorem placeSection_perm (s : Section) (ss : List Section) :
    (placeSection s ss).Perm (s :: ss) := by
  induction ss with
  | nil => rfl
  | cons t ts ih =>
    unfold placeSection
    split
    · rfl
    · exact (ih.cons t).trans (List.Perm.swap s t ts)

/-- A section placed in a list splits it in two. -/
theorem exists_placeSection_eq (s : Section) (ss : List Section) :
    ∃ l₁ l₂, ss = l₁ ++ l₂ ∧ placeSection s ss = l₁ ++ s :: l₂ := by
  induction ss with
  | nil => exact ⟨[], [], rfl, rfl⟩
  | cons t ts ih =>
    unfold placeSection
    split
    · exact ⟨[], t :: ts, rfl, rfl⟩
    · obtain ⟨l₁, l₂, rfl, h⟩ := ih
      exact ⟨t :: l₁, l₂, rfl, by rw [h, List.cons_append]⟩

/-- A section of the greatest rank so far goes last. -/
theorem placeSection_eq_append {s : Section} {ss : List Section}
    (h : ∀ t ∈ ss, sectionRank t.name ≤ sectionRank s.name) : placeSection s ss = ss ++ [s] := by
  induction ss with
  | nil => rfl
  | cons t ts ih =>
    have ht := h t List.mem_cons_self
    rw [placeSection, if_neg (by omega), ih fun u hu => h u (List.mem_cons_of_mem t hu)]
    rfl

/-- Placing a section keeps a list in rank order. -/
theorem pairwise_placeSection (s : Section) {ss : List Section}
    (h : ss.Pairwise fun a b => sectionRank a.name ≤ sectionRank b.name) :
    (placeSection s ss).Pairwise fun a b => sectionRank a.name ≤ sectionRank b.name := by
  induction ss with
  | nil => simp [placeSection]
  | cons t ts ih =>
    obtain ⟨ht, hts⟩ := List.pairwise_cons.1 h
    unfold placeSection
    split
    · next hlt =>
      refine List.Pairwise.cons (fun u hu => ?_) h
      rcases List.mem_cons.1 hu with rfl | hu
      · omega
      · have := ht u hu
        omega
    · next hge =>
      refine List.Pairwise.cons (fun u hu => ?_) (ih hts)
      rcases List.mem_cons.1 ((placeSection_perm s ts).mem_iff.1 hu) with rfl | hu
      · omega
      · exact ht u hu

/-! ## The sections under each operation -/

namespace Package

variable (p : Package)

@[simp] theorem sections_setDoc (d : String) : (p.setDoc d).sections = p.sections := rfl

@[simp] theorem sections_addWith (o : String) : (p.addWith o).sections = p.sections := by
  unfold addWith
  split <;> rfl

@[simp] theorem sections_addPrivate (t : String) : (p.addPrivate t).sections = p.sections := rfl

@[simp] theorem sections_addBody (t : String) : (p.addBody t).sections = p.sections := rfl

theorem openSection_of_mem {n : String} (h : n ∈ p.sections.map Section.name) :
    p.openSection n = p := by
  have : p.sections.any (·.name == n) = true := by simpa using h
  simp [openSection, this]

theorem sections_openSection_of_not_mem {n : String} (h : n ∉ p.sections.map Section.name) :
    (p.openSection n).sections = placeSection ⟨n, []⟩ p.sections := by
  have : p.sections.any (·.name == n) = false := by simpa using h
  simp [openSection, this]

theorem sections_addTo (n t : String) :
    (p.addTo n t).sections =
      (p.openSection n).sections.map fun s => if s.name == n then s.add t else s := rfl

@[simp] theorem name_addWith (o : String) : (p.addWith o).name = p.name := by
  unfold addWith
  split <;> rfl

@[simp] theorem name_openSection (n : String) : (p.openSection n).name = p.name := by
  unfold openSection
  split <;> rfl

/-- No operation renames a package. -/
@[simp] theorem Edit.name_apply (e : Edit) : (e.apply p).name = p.name := by
  cases e <;> simp [Edit.apply, Package.setDoc, Package.addTo, Package.addPrivate, Package.addBody]

@[simp] theorem name_applyEdits (es : List Edit) : (p.applyEdits es).name = p.name := by
  induction es generalizing p with
  | nil => rfl
  | cons e es ih => rw [applyEdits, List.foldl_cons, ← applyEdits, ih, Edit.name_apply]

end Package

/-- The blocks of the section of a name; none when there is no such section. -/
def Package.blocksOf (p : Package) (n : String) : List String :=
  ((p.sections.find? (·.name == n)).map Section.blocks).getD []

/-! ## The invariant -/

/-- The sections `ss` are those a history `es` of edits asked for, each holding the blocks added
to it. -/
structure SectionsFollow (es : List Package.Edit) (ss : List Section) : Prop where
  /-- No two sections share a name. -/
  nodup : (ss.map Section.name).Nodup
  /-- The sections go by rank. -/
  sorted : ss.Pairwise fun s t => sectionRank s.name ≤ sectionRank t.name
  /-- A section exists exactly when it was asked for. -/
  mem_iff : ∀ n, n ∈ ss.map Section.name ↔ n ∈ askedSections es
  /-- The sections outside the fixed order come in the order they were first asked for. -/
  extra : (ss.map Section.name).filter (· ∉ sectionOrder) =
    ((askedSections es).filter (· ∉ sectionOrder)).eraseDups
  /-- Each section holds the blocks added to it. -/
  blocks_eq : ∀ s ∈ ss, s.blocks = addedBlocks es s.name

namespace SectionsFollow

theorem nil : SectionsFollow [] [] where
  nodup := List.nodup_nil
  sorted := List.Pairwise.nil
  mem_iff _ := by simp [askedSections]
  extra := by simp [askedSections]
  blocks_eq _ h := nomatch h

variable {es : List Package.Edit} {p : Package}

/-- Edits that ask for no section leave the sections as they are. -/
theorem of_asks_nothing (h : SectionsFollow es p.sections) {e : Package.Edit}
    (he : e.asked? = none) (hb : ∀ n, e.blockFor? n = none) : SectionsFollow (es ++ [e]) p.sections where
  nodup := h.nodup
  sorted := h.sorted
  mem_iff n := by simpa [he] using h.mem_iff n
  extra := by simpa [he] using h.extra
  blocks_eq s hs := by simpa [hb] using h.blocks_eq s hs

/-- Asking for a section that exists changes nothing. -/
theorem openSection_of_mem (h : SectionsFollow es p.sections) {n : String}
    (hn : n ∈ p.sections.map Section.name) :
    SectionsFollow (es ++ [.openSection n]) (p.openSection n).sections := by
  have hasked : n ∈ Package.Edit.trace Package.Edit.asked? es := (h.mem_iff n).1 hn
  rw [p.openSection_of_mem hn]
  refine ⟨h.nodup, h.sorted, fun m => ?_, ?_, fun s hs => ?_⟩
  · rw [h.mem_iff m]
    simp only [askedSections, Package.Edit.trace_append, Package.Edit.trace_cons,
      Package.Edit.trace_nil, Package.Edit.asked?, Option.toList_some, List.append_nil,
      List.mem_append, List.mem_singleton, iff_self_or]
    rintro rfl
    exact hasked
  · rw [h.extra]
    by_cases hs : n ∈ sectionOrder
    · simp [Package.Edit.asked?, hs]
    · simp [Package.Edit.asked?, hs, eraseDups_append_singleton, hasked]
  · simpa [Package.Edit.blockFor?] using h.blocks_eq s hs

/-- A section asked for the first time is placed by its rank, empty. -/
theorem openSection_of_not_mem (h : SectionsFollow es p.sections) {n : String}
    (hn : n ∉ p.sections.map Section.name) :
    SectionsFollow (es ++ [.openSection n]) (p.openSection n).sections := by
  have hasked : n ∉ Package.Edit.trace Package.Edit.asked? es := fun h' => hn ((h.mem_iff n).2 h')
  have hperm := (placeSection_perm ⟨n, []⟩ p.sections).map Section.name
  rw [p.sections_openSection_of_not_mem hn]
  refine ⟨?_, pairwise_placeSection _ h.sorted, fun m => ?_, ?_, fun s hs => ?_⟩
  · exact hperm.nodup_iff.2 (List.nodup_cons.2 ⟨hn, h.nodup⟩)
  · rw [hperm.mem_iff, List.map_cons, List.mem_cons, h.mem_iff m]
    simp [Package.Edit.asked?, or_comm]
  · by_cases hs : n ∈ sectionOrder
    · -- a fixed section lands among the fixed ones and leaves the others where they are
      obtain ⟨l₁, l₂, hss, hplace⟩ := exists_placeSection_eq ⟨n, []⟩ p.sections
      have hright : (askedSections (es ++ [.openSection n])).filter (· ∉ sectionOrder) =
          (askedSections es).filter (· ∉ sectionOrder) := by
        simp [Package.Edit.asked?, hs]
      rw [hplace, hright, ← h.extra, hss]
      simp [hs]
    · -- any other section has the greatest rank and goes last
      rw [placeSection_eq_append fun t _ => by
        rw [sectionRank_of_not_mem hs]; exact sectionRank_le _]
      rw [List.map_append, List.filter_append, h.extra]
      simp [Package.Edit.asked?, hs, eraseDups_append_singleton, hasked]
  · rcases List.mem_cons.1 ((placeSection_perm _ _).mem_iff.1 hs) with rfl | hs
    · simpa [Package.Edit.blockFor?] using addedBlocks_eq_nil hasked
    · simpa [Package.Edit.blockFor?] using h.blocks_eq s hs

theorem openSection (h : SectionsFollow es p.sections) (n : String) :
    SectionsFollow (es ++ [.openSection n]) (p.openSection n).sections := by
  by_cases hn : n ∈ p.sections.map Section.name
  · exact h.openSection_of_mem hn
  · exact h.openSection_of_not_mem hn

/-- Adding a block opens its section if needed, then appends the block to it. -/
theorem addTo (h : SectionsFollow es p.sections) (n t : String) :
    SectionsFollow (es ++ [.addTo n t]) (p.addTo n t).sections := by
  have h' := h.openSection n
  have hname : ∀ s : Section, (if s.name == n then s.add t else s).name = s.name := by
    intro s
    split <;> rfl
  have hnames : ((p.addTo n t).sections.map Section.name) =
      (p.openSection n).sections.map Section.name := by
    rw [Package.sections_addTo, List.map_map]
    exact List.map_congr_left fun s _ => hname s
  have hasked : askedSections (es ++ [.addTo n t]) = askedSections (es ++ [.openSection n]) := by
    simp [Package.Edit.asked?]
  refine ⟨hnames ▸ h'.nodup, ?_, fun m => hnames ▸ hasked ▸ h'.mem_iff m,
    hnames ▸ hasked ▸ h'.extra, fun s hs => ?_⟩
  · rw [Package.sections_addTo, List.pairwise_map]
    exact h'.sorted.imp fun {a b} hab => by rwa [hname a, hname b]
  · rw [Package.sections_addTo, List.mem_map] at hs
    obtain ⟨s, hs, rfl⟩ := hs
    have hb := h'.blocks_eq s hs
    by_cases hsn : s.name = n
    · simp [hsn, Section.add, Package.Edit.blockFor?] at hb ⊢
      exact hb
    · simp [hsn, Ne.symm hsn, Package.Edit.blockFor?] at hb ⊢
      exact hb

/-- Every edit keeps the invariant. -/
theorem apply (h : SectionsFollow es p.sections) (e : Package.Edit) :
    SectionsFollow (es ++ [e]) (e.apply p).sections := by
  cases e with
  | openSection n => exact h.openSection n
  | addTo n t => exact h.addTo n t
  | setDoc d => simpa [Package.Edit.apply] using h.of_asks_nothing rfl fun _ => rfl
  | addWith o => simpa [Package.Edit.apply] using h.of_asks_nothing rfl fun _ => rfl
  | addPrivate t => simpa [Package.Edit.apply] using h.of_asks_nothing rfl fun _ => rfl
  | addBody t => simpa [Package.Edit.apply] using h.of_asks_nothing rfl fun _ => rfl

/-- A run of edits keeps the invariant. -/
theorem applyEdits (h : SectionsFollow es p.sections) (es' : List Package.Edit) :
    SectionsFollow (es ++ es') (p.applyEdits es').sections := by
  induction es' generalizing es p with
  | nil => simpa [Package.applyEdits] using h
  | cons e es' ih =>
    have := ih (h.apply e)
    rwa [List.append_assoc, List.singleton_append] at this

/-- The sections are determined by their names. -/
theorem sections_eq {ss : List Section} (h : SectionsFollow es ss) :
    ss = (ss.map Section.name).map fun n => ⟨n, addedBlocks es n⟩ := by
  rw [List.map_map]
  conv => lhs; rw [← List.map_id ss]
  refine List.map_congr_left fun s hs => ?_
  cases s
  simpa using h.blocks_eq _ hs

/-- Looking a section up by name finds the one section of that name, holding what was added
through that name. -/
theorem find?_eq {ss : List Section} (h : SectionsFollow es ss) {n : String}
    (hn : n ∈ askedSections es) : ss.find? (·.name == n) = some ⟨n, addedBlocks es n⟩ := by
  cases hf : ss.find? (·.name == n) with
  | none =>
    obtain ⟨s, hs, rfl⟩ := List.mem_map.1 ((h.mem_iff n).2 hn)
    simpa using List.find?_eq_none.1 hf s hs
  | some s =>
    have hname : s.name = n := by simpa using List.find?_some hf
    have hblocks := h.blocks_eq s (List.mem_of_find?_eq_some hf)
    cases s
    simp_all

/-- A package built by edits from a new one follows them. -/
theorem of_new (name : String) (es : List Package.Edit) :
    SectionsFollow es ((Package.new name).applyEdits es).sections := by
  have h0 : SectionsFollow [] (Package.new name).sections := SectionsFollow.nil
  simpa using h0.applyEdits es

/-- The blocks of every section name are those added through it; a name never asked for has
none. -/
theorem blocksOf_eq (h : SectionsFollow es p.sections) (n : String) :
    p.blocksOf n = addedBlocks es n := by
  by_cases hn : n ∈ askedSections es
  · simp [Package.blocksOf, h.find?_eq hn]
  · have hnone : p.sections.find? (·.name == n) = none := by
      rw [List.find?_eq_none]
      intro s hs hsn
      exact hn ((h.mem_iff n).1 (by simpa using ⟨s, hs, by simpa using hsn⟩))
    rw [Package.blocksOf, hnone, addedBlocks_eq_nil hn]
    rfl

/-- The specification writes the nonempty sections in the order of their names, each with the
blocks added to it. -/
theorem specText_eq (h : SectionsFollow es p.sections) :
    p.specText = p.withText ++ "package " ++ p.name ++ " is\n\n" ++ p.docText ++
      String.join (((p.sections.map Section.name).filter fun n => !(addedBlocks es n).isEmpty).map
        fun n => Section.render ⟨n, addedBlocks es n⟩) ++
      p.privateText ++ "end " ++ p.name ++ ";\n" := by
  have hwritten : (p.sections.filter fun s => !s.isEmpty) =
      ((p.sections.map Section.name).filter fun n => !(addedBlocks es n).isEmpty).map
        fun n => ⟨n, addedBlocks es n⟩ := by
    conv => lhs; rw [h.sections_eq]
    rw [List.filter_map]
    rfl
  rw [Package.specText, hwritten, List.map_map]
  rfl

end SectionsFollow

/-- However sections are asked for and whatever else is done to a package, its sections are one
per name asked for, in the fixed order with the other sections in the order first asked for,
each holding exactly the blocks added to it in order; a lookup by name finds that section, and
the specification writes every nonempty section once, in that order. -/
theorem sections_follow_edits (name : String) (es : List Package.Edit) :
    let p := (Package.new name).applyEdits es
    SectionsFollow es p.sections ∧
      (∀ n ∈ askedSections es, p.sections.find? (·.name == n) = some ⟨n, addedBlocks es n⟩) ∧
      p.specText = p.withText ++ "package " ++ name ++ " is\n\n" ++ p.docText ++
        String.join (((p.sections.map Section.name).filter fun n => !(addedBlocks es n).isEmpty).map
          fun n => Section.render ⟨n, addedBlocks es n⟩) ++
        p.privateText ++ "end " ++ name ++ ";\n" := by
  intro p
  have h : SectionsFollow es p.sections := SectionsFollow.of_new name es
  refine ⟨h, fun n hn => h.find?_eq hn, ?_⟩
  have hname : p.name = name := Package.name_applyEdits _ es
  rw [h.specText_eq, hname]

example : ((Package.new "Gtk.Bin").applyEdits [.addTo "Methods" "a", .addTo "Extra" "y",
    .addTo "Signals" "s", .addTo "Constructors" "c", .openSection "Misc", .addTo "" "t",
    .addTo "Properties" "p", .addTo "Methods" "b"]).sections.map Section.name =
    ["", "Constructors", "Methods", "Properties", "Signals", "Extra", "Misc"] := by
  decide

end GirAda.Ada
