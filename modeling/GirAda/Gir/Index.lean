/-!
# Insertion-ordered indexes

An index holds values under distinct keys, in the order in which each key was first inserted.
It keeps three parts in step: the values in that order (`storage`), the keys in the same order
(`keys`), and the place of each key among them (`map`). A lookup finds the place of its key and
reads the value there. Inserting a known key replaces the value at its place; inserting a new key
appends the key and the value and records their place. The places are kept as a list of pairs,
which answers a lookup as a hash map does.
-/

namespace GirAda.Gir

/-- Values under distinct keys, in order of each key's first insertion, with the place of each
key. -/
structure Index (α : Type) where
  storage : List α
  keys : List String
  map : List (String × Nat)
  deriving Inhabited

namespace Index

variable {α : Type}

/-- The empty index. -/
def empty : Index α := ⟨[], [], []⟩

/-- The value under a key: the value at the place of the key. -/
def get? (m : Index α) (k : String) : Option α := (m.map.lookup k).bind fun id => m.storage[id]?

/-- Whether a key has a place. -/
def contains (m : Index α) (k : String) : Bool := (m.map.lookup k).isSome

/-- Insert a value: a known key takes the value at its place, a new key goes last. -/
def insert (m : Index α) (k : String) (v : α) : Index α :=
  match m.map.lookup k with
  | some id => { m with storage := m.storage.set id v }
  | none => ⟨m.storage ++ [v], m.keys ++ [k], (k, m.storage.length) :: m.map⟩

/-- The keys with their values, in order of first insertion. -/
def entries (m : Index α) : List (String × α) := m.keys.zip m.storage

/-- The number of values. -/
def size (m : Index α) : Nat := m.storage.length

end Index

end GirAda.Gir
