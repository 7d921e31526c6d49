import Mathlib.Data.List.Induction
import Mathlib.Data.List.Sort
import Mathlib.Data.String.Basic
import GirAda.Ada.PackageSet
import GirAda.Proofs.Sections

/-!
# Sets of packages

A run looks packages up by name and edits what each lookup gives. Whatever the spellings and
the order of the lookups, the set holds one package per name in lower case, created under the
first spelling of that name and holding every edit made through any of its spellings, in the
order they were made (`lookup_run`). The text of the set lists the packages in the order of
their lower-case names (`sorted_eq`), so it depends on what the set holds and not on the order
in which the packages were first asked for.
-/

namespace GirAda.Ada

open GirAda.Gir

namespace PackageSet

/-- A run: each step looks up the package of a name and makes edits to it. -/
def run (ps : PackageSet) (steps : List (String × List Package.Edit)) : PackageSet :=
  steps.foldl (fun ps s => ps.update s.1 (·.applyEdits s.2)) ps

/-- The edits a run makes through the names of a key, in order. -/
def editsUnder (steps : List (String × List Package.Edit)) (k : String) : List Package.Edit :=
  (steps.filter fun s => key s.1 == k).flatMap Prod.snd

/-- The package a run leaves under a key: created under the first name of that key, with every
edit made through a name of that key. -/
def packageUnder (steps : List (String × List Package.Edit)) (k : String) : Option Package :=
  (steps.find? fun s => key s.1 == k).map fun s =>
    (Package.new s.1).applyEdits (editsUnder steps k)

theorem run_append (ps : PackageSet) (steps : List (String × List Package.Edit))
    (s : String × List Package.Edit) :
    ps.run (steps ++ [s]) = (ps.run steps).update s.1 (·.applyEdits s.2) := by
  simp [run, List.foldl_append]

/-- A step adds its edits to the package of its key, creating it under its name if needed. -/
theorem packageUnder_append (steps : List (String × List Package.Edit))
    (s : String × List Package.Edit) (k : String) :
    packageUnder (steps ++ [s]) k =
      if k = key s.1 then some (((packageUnder steps k).getD (Package.new s.1)).applyEdits s.2)
      else packageUnder steps k := by
  by_cases hk : k = key s.1
  · subst hk
    cases hfind : steps.find? fun t => key t.1 == key s.1 with
    | none =>
      have hfilter : (steps.filter fun t => key t.1 == key s.1) = [] :=
        List.filter_eq_nil_iff.2 (List.find?_eq_none.1 hfind)
      simp [packageUnder, editsUnder, hfind, hfilter]
    | some t => simp [packageUnder, editsUnder, hfind]
  · simp [packageUnder, editsUnder, hk, Ne.symm hk]

/-- A run keeps the index of packages in step. -/
theorem inStep_run (steps : List (String × List Package.Edit)) :
    (empty.run steps).packages.InStep := by
  induction steps using List.reverseRecOn with
  | nil => exact Index.empty_inStep
  | append_singleton steps s ih =>
    rw [run_append]
    exact ih.insert _ _

/-- The package of every key after a run. -/
theorem lookup_run (steps : List (String × List Package.Edit)) (k : String) :
    (empty.run steps).packages.get? k = packageUnder steps k := by
  induction steps using List.reverseRecOn generalizing k with
  | nil => rfl
  | append_singleton steps s ih =>
    rw [run_append, packageUnder_append]
    simp only [update, put, current, get?]
    rw [Index.get?_insert (inStep_run steps), ih, ih]
    by_cases hk : k = key s.1 <;> simp [hk]

/-- A run creates one package per key, in the order the keys were first used. -/
theorem keys_run (steps : List (String × List Package.Edit)) :
    (empty.run steps).packages.keys = (steps.map fun s => key s.1).eraseDups := by
  induction steps using List.reverseRecOn with
  | nil => rfl
  | append_singleton steps s ih =>
    rw [run_append]
    simp only [update, put]
    rw [Index.keys_insert_of_eraseDups (inStep_run steps) ih, List.map_append, List.map_singleton]

theorem nodup_keys_run (steps : List (String × List Package.Edit)) :
    (empty.run steps).packages.keys.Nodup :=
  (inStep_run steps).nodup_keys

theorem isSome_packageUnder (steps : List (String × List Package.Edit)) (k : String) :
    (packageUnder steps k).isSome ↔ ∃ s ∈ steps, key s.1 = k := by
  simp [packageUnder, List.find?_isSome]

/-- The package of a key is named by the first name of that key. -/
theorem name_packageUnder (steps : List (String × List Package.Edit)) (k : String) :
    (packageUnder steps k).map Package.name = (steps.find? fun s => key s.1 == k).map Prod.fst := by
  simp [packageUnder, Option.map_map, Function.comp_def, Package.new]

/-- The packages in key order are those of the sorted keys. -/
theorem sorted_eq (ps : PackageSet) (h : ps.packages.InStep) :
    ps.sorted = (ps.packages.keys.mergeSort fun a b => decide (a ≤ b)).filterMap ps.packages.get? := by
  have hkeys : (ps.packages.entries.mergeSort fun a b => decide (a.1 ≤ b.1)).map Prod.fst =
      ps.packages.keys.mergeSort fun a b => decide (a ≤ b) := by
    rw [← Index.map_fst_entries h]
    exact List.map_mergeSort fun _ _ _ _ => rfl
  have hlookup : ∀ e ∈ ps.packages.entries.mergeSort (fun a b => decide (a.1 ≤ b.1)),
      ps.packages.get? e.1 = some e.2 :=
    fun e he => Index.get?_of_mem h (List.mem_mergeSort.1 he)
  rw [sorted, ← hkeys, List.filterMap_map, ← List.filterMap_eq_map]
  exact (List.filterMap_congr fun e he => (hlookup e he).symm)

/-- Distinct texts sorted by `≤` are in increasing order. -/
theorem pairwise_lt_mergeSort {l : List String} (h : l.Nodup) :
    (l.mergeSort fun a b => decide (a ≤ b)).Pairwise (· < ·) := by
  have hle := List.pairwise_mergeSort' (· ≤ ·) l
  have hne := (List.mergeSort_perm l fun a b => decide (a ≤ b)).nodup_iff.2 h
  exact (hle.and hne).imp fun ⟨hab, hne⟩ => lt_of_le_of_ne hab hne

/-- The text of the set after a run: every specification, then every body, the packages in
increasing order of their keys. -/
theorem render_run (steps : List (String × List Package.Edit)) (header : String) :
    ∃ ks : List String, ks.Pairwise (· < ·) ∧ (∀ k, k ∈ ks ↔ ∃ s ∈ steps, key s.1 = k) ∧
      (empty.run steps).render header =
        String.join ((ks.filterMap (packageUnder steps)).map fun p =>
          header ++ p.specText ++ "\n") ++
        String.join ((ks.filterMap (packageUnder steps)).filterMap fun p =>
          p.bodyText.map fun b => header ++ b ++ "\n") := by
  refine ⟨(empty.run steps).packages.keys.mergeSort fun a b => decide (a ≤ b),
    pairwise_lt_mergeSort (nodup_keys_run steps), fun k => ?_, ?_⟩
  · simp [keys_run]
  · have hget : (empty.run steps).packages.get? = packageUnder steps := funext (lookup_run steps)
    rw [render, sorted_eq _ (inStep_run steps), hget]

theorem get?_run (steps : List (String × List Package.Edit)) (m : String) :
    (empty.run steps).get? m = packageUnder steps (key m) :=
  lookup_run steps (key m)

/-- Two runs that leave the same package under every name write the same text, whatever order
they first asked for the packages in. -/
theorem render_run_eq (steps steps' : List (String × List Package.Edit))
    (h : ∀ m, (empty.run steps').get? m = (empty.run steps).get? m) (header : String) :
    (empty.run steps').render header = (empty.run steps).render header := by
  have hunder : ∀ m, packageUnder steps' (key m) = packageUnder steps (key m) := fun m => by
    simpa [get?_run] using h m
  -- the two runs use the same keys, so they list them in the same order
  have hsame : ∀ k, (∃ s ∈ steps', key s.1 = k) ↔ ∃ s ∈ steps, key s.1 = k := by
    intro k
    constructor
    · rintro ⟨s, hs, rfl⟩
      rw [← isSome_packageUnder, ← hunder s.1, isSome_packageUnder]
      exact ⟨s, hs, rfl⟩
    · rintro ⟨s, hs, rfl⟩
      rw [← isSome_packageUnder, hunder s.1, isSome_packageUnder]
      exact ⟨s, hs, rfl⟩
  obtain ⟨ks, hks, hmem, hrender⟩ := render_run steps header
  obtain ⟨ks', hks', hmem', hrender'⟩ := render_run steps' header
  have hks_eq : ks' = ks := hks'.eq_of_mem_iff hks fun k => by rw [hmem', hmem, hsame]
  have hpackages : ks'.filterMap (packageUnder steps') = ks.filterMap (packageUnder steps) := by
    rw [hks_eq]
    refine List.filterMap_congr fun k hk => ?_
    obtain ⟨s, -, rfl⟩ := (hmem k).1 hk
    exact hunder s.1
  rw [hrender', hrender, hpackages]

/-- A run keeps one package per lower-case name, created under its first spelling and holding every
edit made through any spelling, and writes them in order of their lower-case names. -/
theorem lookups_by_lower_case (steps : List (String × List Package.Edit)) (header : String) :
    let ps := empty.run steps
    ps.packages.keys = (steps.map fun s => key s.1).eraseDups ∧
    (∀ m, (ps.get? m).isSome ↔ ∃ s ∈ steps, key s.1 = key m) ∧
    (∀ m, ps.get? m = packageUnder steps (key m)) ∧
    (∀ m, (ps.get? m).map Package.name = (steps.find? fun s => key s.1 == key m).map Prod.fst) ∧
    (∃ ks : List String, ks.Pairwise (· < ·) ∧ (∀ k, k ∈ ks ↔ ∃ s ∈ steps, key s.1 = k) ∧
      ps.render header =
        String.join ((ks.filterMap (packageUnder steps)).map fun p =>
          header ++ p.specText ++ "\n") ++
        String.join ((ks.filterMap (packageUnder steps)).filterMap fun p =>
          p.bodyText.map fun b => header ++ b ++ "\n")) ∧
    ∀ steps' : List (String × List Package.Edit),
      (∀ m, (empty.run steps').get? m = ps.get? m) → (empty.run steps').render header = ps.render header := by
  intro ps
  refine ⟨keys_run steps, fun m => ?_, get?_run steps, fun m => ?_, render_run steps header,
    fun steps' h => render_run_eq steps steps' h header⟩
  · rw [get?_run, isSome_packageUnder]
  · rw [get?_run, name_packageUnder]

end PackageSet

end GirAda.Ada
