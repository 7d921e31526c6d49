import Mathlib.Data.List.Induction
import Mathlib.Data.List.Nodup
import GirAda.Gir.Repository

/-!
# Insertion-ordered indexes

An index keeps its values, its keys and the places of its keys in step (`Index.InStep`): as many
values and places as keys, each key found at its own place, and each place found holding its key.
The empty index is in step and an insert keeps it so, whether its key is new or known, so every
run of inserts is in step (`InStep.insertAll`) and a lookup never reads past the values.

Through that invariant, a lookup after an insert finds the inserted value under its key and what
was there before under any other key, and an insert appends a new key and leaves the key list
alone for a known one. A run of inserts into the empty index therefore keeps each key at the place
of its first insert and gives it the value of its last one. The classes of a loaded document are
such a run, one insert per class element of its namespace (`Repository.classes_eq`).
-/

namespace GirAda.Gir

/-- Appending an element to a list keeps the first occurrences of its elements. -/
theorem eraseDups_append_singleton {α : Type} [BEq α] [LawfulBEq α] (l : List α) (a : α) :
    (l ++ [a]).eraseDups = if a ∈ l then l.eraseDups else l.eraseDups ++ [a] := by
  rw [List.eraseDups_append]
  by_cases h : a ∈ l <;> simp [List.removeAll, List.eraseDups_cons, h]

namespace Index

variable {α : Type}

theorem lookup_cons_of_ne {k k' : String} (h : k' ≠ k) (n : Nat) (l : List (String × Nat)) :
    ((k, n) :: l).lookup k' = l.lookup k' := by
  simp [List.lookup_cons, beq_false_of_ne h]

theorem insert_of_lookup_some {m : Index α} {k : String} {id : Nat}
    (hk : m.map.lookup k = some id) (v : α) :
    m.insert k v = { m with storage := m.storage.set id v } := by
  simp [insert, hk]

theorem insert_of_lookup_none {m : Index α} {k : String} (hk : m.map.lookup k = none) (v : α) :
    m.insert k v = ⟨m.storage ++ [v], m.keys ++ [k], (k, m.storage.length) :: m.map⟩ := by
  simp [insert, hk]

theorem get?_of_lookup {m : Index α} {k : String} {j : Nat} (hk : m.map.lookup k = some j) :
    m.get? k = m.storage[j]? := by
  simp [get?, hk]

theorem zip_modify_right {β γ : Type} (l₁ : List β) (l₂ : List γ) (j : Nat)
    (f : γ → γ) :
    l₁.zip (l₂.modify j f) = (l₁.zip l₂).modify j fun e => (e.1, f e.2) := by
  induction l₁ generalizing l₂ j with
  | nil => simp
  | cons a l₁ ih =>
    cases l₂ with
    | nil => simp
    | cons b l₂ =>
      cases j with
      | zero => simp [List.modify_zero_cons]
      | succ j => simp [List.modify_succ_cons, ih]

/-- Changing the value at a place changes the entry at that place only. -/
theorem entries_modify (m : Index α) (j : Nat) (f : α → α) :
    { m with storage := m.storage.modify j f }.entries = m.entries.modify j fun e => (e.1, f e.2) :=
  zip_modify_right m.keys m.storage j f

/-- The parts of an index in step: as many values and places as keys, each key found at its own
place, and each place found holding its key. -/
structure InStep (m : Index α) : Prop where
  length_storage : m.storage.length = m.keys.length
  length_map : m.map.length = m.keys.length
  lookup_key : ∀ j (hj : j < m.keys.length), m.map.lookup m.keys[j] = some j
  key_of_lookup : ∀ {k j}, m.map.lookup k = some j → m.keys[j]? = some k

theorem empty_inStep : (empty : Index α).InStep where
  length_storage := rfl
  length_map := rfl
  lookup_key _ hj := absurd hj (Nat.not_lt_zero _)
  key_of_lookup hk := by simp [empty] at hk

namespace InStep

variable {m : Index α}

/-- A place that is found is within the values. -/
theorem lt_of_lookup (h : m.InStep) {k : String} {j : Nat} (hk : m.map.lookup k = some j) :
    j < m.storage.length := by
  obtain ⟨hj, -⟩ := List.getElem?_eq_some_iff.1 (h.key_of_lookup hk)
  rw [h.length_storage]
  exact hj

theorem lookup_isSome_iff (h : m.InStep) (k : String) :
    (m.map.lookup k).isSome ↔ k ∈ m.keys := by
  constructor
  · intro hk
    obtain ⟨j, hj⟩ := Option.isSome_iff_exists.1 hk
    exact List.mem_of_getElem? (h.key_of_lookup hj)
  · intro hk
    obtain ⟨j, hj, rfl⟩ := List.mem_iff_getElem.1 hk
    simp [h.lookup_key j hj]

theorem nodup_keys (h : m.InStep) : m.keys.Nodup := by
  refine List.nodup_iff_injective_get.2 fun i j hij => Fin.ext ?_
  have hi := h.lookup_key i i.2
  simp only [List.get_eq_getElem] at hij
  rw [hij, h.lookup_key j j.2] at hi
  exact (Option.some.inj hi).symm

/-- The lookup of the key at a place reads the value at that place. -/
theorem get?_getElem_keys (h : m.InStep) (j : Nat) (hj : j < m.keys.length) :
    m.get? m.keys[j] = m.storage[j]? :=
  get?_of_lookup (h.lookup_key j hj)

/-- An insert keeps the parts of an index in step. -/
theorem insert (h : m.InStep) (k : String) (v : α) : (m.insert k v).InStep := by
  cases hk : m.map.lookup k with
  | some id =>
    rw [insert_of_lookup_some hk]
    exact ⟨by simp [h.length_storage], h.length_map, h.lookup_key, h.key_of_lookup⟩
  | none =>
    rw [insert_of_lookup_none hk]
    refine ⟨by simp [h.length_storage], by simp [h.length_map], fun j hj => ?_,
      fun {k' j} hk' => ?_⟩
    · simp only [List.length_append, List.length_singleton] at hj
      by_cases hold : j < m.keys.length
      · have hne : m.keys[j] ≠ k := fun heq => by simp [← heq, h.lookup_key j hold] at hk
        simp [List.getElem_append_left hold, lookup_cons_of_ne hne, h.lookup_key j hold]
      · obtain rfl : j = m.keys.length := by omega
        simp [h.length_storage]
    · by_cases hnew : k' = k
      · subst hnew
        obtain rfl : m.keys.length = j := by simpa [h.length_storage] using hk'
        simp
      · rw [lookup_cons_of_ne hnew] at hk'
        have hold := h.key_of_lookup hk'
        rw [List.getElem?_append_left (List.getElem?_eq_some_iff.1 hold).1]
        exact hold

end InStep

section Laws

variable {m : Index α} (h : m.InStep)
include h

/-- A lookup after an insert: the inserted value under its key, the old lookup elsewhere. -/
theorem get?_insert (k : String) (v : α) (k' : String) :
    (m.insert k v).get? k' = if k' = k then some v else m.get? k' := by
  cases hk : m.map.lookup k with
  | some id =>
    rw [insert_of_lookup_some hk]
    by_cases hsame : k' = k
    · subst hsame
      simp [get?, hk, List.getElem?_set_self (h.lt_of_lookup hk)]
    · cases hk' : m.map.lookup k' with
      | none => simp [get?, hk', hsame]
      | some id' =>
        have hne : id ≠ id' := fun heq => hsame (Option.some.inj
          ((h.key_of_lookup hk').symm.trans (heq ▸ h.key_of_lookup hk)))
        simp [get?, hk', hsame, List.getElem?_set_ne hne]
  | none =>
    rw [insert_of_lookup_none hk]
    by_cases hsame : k' = k
    · subst hsame
      simp [get?]
    · cases hk' : m.map.lookup k' with
      | none => simp [get?, lookup_cons_of_ne hsame, hk', hsame]
      | some j =>
        simp [get?, lookup_cons_of_ne hsame, hk', hsame,
          List.getElem?_append_left (h.lt_of_lookup hk')]

/-- An insert appends a new key and keeps the keys for a known one. -/
theorem keys_insert (k : String) (v : α) :
    (m.insert k v).keys = if k ∈ m.keys then m.keys else m.keys ++ [k] := by
  cases hk : m.map.lookup k with
  | some id =>
    have hmem : k ∈ m.keys := (h.lookup_isSome_iff k).1 (by simp [hk])
    simp [insert_of_lookup_some hk, hmem]
  | none =>
    have hmem : k ∉ m.keys := fun hmem => by simpa [hk] using (h.lookup_isSome_iff k).2 hmem
    simp [insert_of_lookup_none hk, hmem]

/-- Keys that are the first uses of `ks`, with `k` inserted, are the first uses of `ks ++ [k]`. -/
theorem keys_insert_of_eraseDups {ks : List String} (hks : m.keys = ks.eraseDups) (k : String)
    (v : α) : (m.insert k v).keys = (ks ++ [k]).eraseDups := by
  rw [keys_insert h, hks, eraseDups_append_singleton]
  by_cases hk : k ∈ ks
  · rw [if_pos (List.mem_eraseDups.2 hk), if_pos hk]
  · rw [if_neg (mt List.mem_eraseDups.1 hk), if_neg hk]

theorem contains_eq (k : String) : m.contains k = decide (k ∈ m.keys) := by
  rw [contains, Bool.eq_iff_iff, h.lookup_isSome_iff, decide_eq_true_iff]

theorem size_eq : m.size = m.keys.length := h.length_storage

theorem map_fst_entries : m.entries.map Prod.fst = m.keys :=
  List.map_fst_zip (Nat.le_of_eq h.length_storage.symm)

/-- Every entry is what the lookup of its key gives. -/
theorem get?_of_mem {e : String × α} (he : e ∈ m.entries) : m.get? e.1 = some e.2 := by
  obtain ⟨j, hj, rfl⟩ := List.mem_iff_getElem.1 he
  have hj' : j < m.keys.length := by simp [entries] at hj; omega
  simp [entries, h.get?_getElem_keys j hj']

/-- The entries are the keys, each with its lookup. -/
theorem entries_eq_keys_map :
    m.entries.map (fun e => (e.1, some e.2)) = m.keys.map fun k => (k, m.get? k) := by
  refine List.ext_getElem (by simp [entries, h.length_storage]) fun j h₁ h₂ => ?_
  have hj : j < m.keys.length := by simpa using h₂
  simp [entries, h.get?_getElem_keys j hj]

end Laws

/-! ## Runs of inserts -/

/-- Insert pairs in order. -/
def insertAll (m : Index α) (kvs : List (String × α)) : Index α :=
  kvs.foldl (fun m e => m.insert e.1 e.2) m

theorem insertAll_append_singleton (m : Index α) (kvs : List (String × α)) (e : String × α) :
    m.insertAll (kvs ++ [e]) = (m.insertAll kvs).insert e.1 e.2 := by
  simp [insertAll, List.foldl_append]

/-- The value of the last insert of a key. -/
def latest (kvs : List (String × α)) (k : String) : Option α :=
  (kvs.reverse.find? (·.1 == k)).map Prod.snd

theorem latest_append_singleton (kvs : List (String × α)) (e : String × α) (k : String) :
    latest (kvs ++ [e]) k = if k = e.1 then some e.2 else latest kvs k := by
  by_cases hk : k = e.1
  · simp [latest, hk]
  · simp [latest, hk, Ne.symm hk]

/-- A run of inserts keeps the parts of an index in step. -/
theorem InStep.insertAll {m : Index α} (h : m.InStep) (kvs : List (String × α)) :
    (m.insertAll kvs).InStep := by
  induction kvs generalizing m with
  | nil => exact h
  | cons e kvs ih => exact ih (h.insert e.1 e.2)

theorem inStep_insertAll (kvs : List (String × α)) : (empty.insertAll kvs).InStep :=
  empty_inStep.insertAll kvs

/-- The keys of a run are the inserted keys in the order of their first insert. -/
theorem keys_insertAll (kvs : List (String × α)) :
    (empty.insertAll kvs).keys = (kvs.map Prod.fst).eraseDups := by
  induction kvs using List.reverseRecOn with
  | nil => rfl
  | append_singleton kvs e ih =>
    rw [insertAll_append_singleton, keys_insert_of_eraseDups (inStep_insertAll kvs) ih,
      List.map_append, List.map_singleton]

/-- A lookup after a run gives the value of the last insert of the key. -/
theorem get?_insertAll (kvs : List (String × α)) (k : String) :
    (empty.insertAll kvs).get? k = latest kvs k := by
  induction kvs using List.reverseRecOn with
  | nil => rfl
  | append_singleton kvs e ih =>
    rw [insertAll_append_singleton, get?_insert (inStep_insertAll kvs), ih,
      latest_append_singleton]

/-- What a run of inserts into the empty index holds, key by key. -/
theorem lookups_after_inserts (kvs : List (String × α)) :
    let m := empty.insertAll kvs
    m.keys = (kvs.map Prod.fst).eraseDups ∧
    m.storage.length = m.keys.length ∧ m.map.length = m.keys.length ∧
    (∀ j (hj : j < m.keys.length), m.map.lookup m.keys[j] = some j) ∧
    (∀ k j, m.map.lookup k = some j → j < m.storage.length ∧ m.keys[j]? = some k) ∧
    (∀ k, m.get? k = latest kvs k) ∧
    (∀ k, m.contains k = true ↔ k ∈ kvs.map Prod.fst) ∧
    m.entries.map (fun e => (e.1, some e.2)) = m.keys.map (fun k => (k, latest kvs k)) ∧
    m.size = (kvs.map Prod.fst).eraseDups.length := by
  intro m
  have h : m.InStep := inStep_insertAll kvs
  have hkeys := keys_insertAll kvs
  refine ⟨hkeys, h.length_storage, h.length_map, h.lookup_key,
    fun _ _ hk => ⟨h.lt_of_lookup hk, h.key_of_lookup hk⟩, get?_insertAll kvs, fun k => ?_, ?_,
    by rw [size_eq h, hkeys]⟩
  · rw [contains_eq h, hkeys]
    simp [List.mem_eraseDups]
  · rw [entries_eq_keys_map h]
    simp [m, get?_insertAll]

example : (empty.insertAll [("b", 1), ("a", 2), ("b", 3)]).entries = [("b", 3), ("a", 2)] := by
  decide

end Index

namespace Repository

open GirAda.Xml

/-- Reading the classes into an index: every class element read in turn, then one insert per
class, under its name. -/
theorem indexClasses_eq (acc : Index GirClass) (nodes : List Element) :
    indexClasses acc nodes =
      (nodes.mapM GirClass.ofElement).map fun cs => acc.insertAll (cs.map fun c => (c.name, c)) := by
  induction nodes generalizing acc with
  | nil => rfl
  | cons node rest ih =>
    cases h : GirClass.ofElement node with
    | error e => simp [indexClasses, h, bind, Except.bind, Except.map, List.mapM_cons]
    | ok c =>
      simp only [indexClasses, h, List.mapM_cons, bind, Except.bind, ih]
      cases rest.mapM GirClass.ofElement <;> rfl

/-- The classes of a loaded document: its first namespace's class elements, each read, inserted
in document order under their names. -/
theorem classes_eq {root : Element} {r : Repository} (h : ofElement root = .ok r) :
    ∃ ns cs, root.find? (core "namespace") = some ns ∧
      (ns.findAll (core "class")).mapM GirClass.ofElement = .ok cs ∧
      r.classes = Index.empty.insertAll (cs.map fun c => (c.name, c)) := by
  simp only [ofElement] at h
  split at h
  · cases h
  · split at h
    · next _ ns hns =>
      cases hspace : required ns (XName.plain "name") with
      | error e => simp [hspace, bind, Except.bind] at h
      | ok space =>
        rw [indexClasses_eq] at h
        cases hcs : (ns.findAll (core "class")).mapM GirClass.ofElement with
        | error e => simp [hspace, hcs, bind, Except.bind, Except.map] at h
        | ok cs =>
          simp only [hspace, hcs, bind, Except.bind, Except.map, pure, Except.pure,
            Except.ok.injEq] at h
          exact ⟨ns, cs, hns, hcs, by rw [← h]⟩
    · cases h

/-- The last insert of each class name, when the classes are inserted under their names, is the
last class of that name. -/
theorem latest_classes (cs : List GirClass) (n : String) :
    Index.latest (cs.map fun c => (c.name, c)) n = cs.reverse.find? (·.name == n) := by
  simp [Index.latest, List.find?_map, Function.comp_def, ← List.map_reverse]

/-- The classes of a loaded document: each class name of its first namespace once, in the order
of its first class element, with the last class of that name. -/
theorem classes_by_first_place {root : Element} {r : Repository} (h : ofElement root = .ok r) :
    ∃ ns cs, root.find? (core "namespace") = some ns ∧
      (ns.findAll (core "class")).mapM GirClass.ofElement = .ok cs ∧
      r.classes.entries.map (fun e => (e.1, some e.2)) =
        (cs.map (·.name)).eraseDups.map (fun n => (n, cs.reverse.find? (·.name == n))) ∧
      (∀ n, r.isClass n = true ↔ n ∈ cs.map (·.name)) ∧
      r.numClasses = (cs.map (·.name)).eraseDups.length := by
  obtain ⟨ns, cs, hns, hcs, hclasses⟩ := classes_eq h
  obtain ⟨hkeys, -, -, -, -, -, hcontains, hentries, hsize⟩ :=
    Index.lookups_after_inserts (cs.map fun c => (c.name, c))
  simp only [List.map_map, Function.comp_def] at hkeys hcontains hsize
  refine ⟨ns, cs, hns, hcs, ?_, fun n => ?_, ?_⟩
  · rw [hclasses, hentries, hkeys]
    simp [latest_classes]
  · simpa [isClass, hclasses] using hcontains n
  · simpa [numClasses, hclasses] using hsize

end Repository

/-- A run of inserts keeps the values, keys and places of an index in step, each key once at the
place of its first insert with the value of its last; so the classes of a loaded document are its
distinct class names in order of first occurrence, each with its last class of that name. -/
theorem inserts_keep_first_place_last_value :
    (∀ {α : Type} (kvs : List (String × α)),
      let m := Index.empty.insertAll kvs;
      m.keys = (kvs.map Prod.fst).eraseDups ∧
      m.storage.length = m.keys.length ∧ m.map.length = m.keys.length ∧
      (∀ j (hj : j < m.keys.length), m.map.lookup m.keys[j] = some j) ∧
      (∀ k j, m.map.lookup k = some j → j < m.storage.length ∧ m.keys[j]? = some k) ∧
      (∀ k, m.get? k = Index.latest kvs k) ∧
      (∀ k, m.contains k = true ↔ k ∈ kvs.map Prod.fst) ∧
      m.entries.map (fun e => (e.1, some e.2)) = m.keys.map (fun k => (k, Index.latest kvs k)) ∧
      m.size = (kvs.map Prod.fst).eraseDups.length) ∧
    ∀ (root : Xml.Element) (r : Repository), Repository.ofElement root = .ok r →
      ∃ ns cs, root.find? (core "namespace") = some ns ∧
        (ns.findAll (core "class")).mapM GirClass.ofElement = .ok cs ∧
        r.classes.entries.map (fun e => (e.1, some e.2)) =
          (cs.map (·.name)).eraseDups.map (fun n => (n, cs.reverse.find? (·.name == n))) ∧
        (∀ n, r.isClass n = true ↔ n ∈ cs.map (·.name)) ∧
        r.numClasses = (cs.map (·.name)).eraseDups.length :=
  ⟨fun kvs => Index.lookups_after_inserts kvs, fun _ _ h => Repository.classes_by_first_place h⟩

/-- A namespace naming `Frame` twice loads, and its classes keep `Frame` first. -/
theorem repeated_class_keeps_first_place :
    let cls : String → String → Xml.Element := fun n p =>
      ⟨core "class", [(Xml.XName.plain "name", n), (Xml.XName.plain "parent", p)], [], ""⟩
    let root : Xml.Element := ⟨core "repository", [],
      [⟨core "namespace", [(Xml.XName.plain "name", "Gtk")],
        [cls "Frame" "Bin", cls "Label" "Misc", cls "Frame" "Widget"], ""⟩], ""⟩
    ∃ r, Repository.ofElement root = .ok r ∧
      ∃ ns cs, root.find? (core "namespace") = some ns ∧
        (ns.findAll (core "class")).mapM GirClass.ofElement = .ok cs ∧
        r.classes.entries.map (fun e => (e.1, some e.2)) =
          (cs.map (·.name)).eraseDups.map (fun n => (n, cs.reverse.find? (·.name == n))) ∧
        (∀ n, r.isClass n = true ↔ n ∈ cs.map (·.name)) ∧
        r.numClasses = (cs.map (·.name)).eraseDups.length :=
  ⟨_, rfl, inserts_keep_first_place_last_value.2 _ _ rfl⟩

end GirAda.Gir
