import GirAda.Ada.Package
import GirAda.Gir.Index
import GirAda.Text.Case

/-!
# Sets of packages

All the packages of a run. A package is looked up by its name in lower case (full Unicode case
mapping), so that names differing only in case are one package; the spelling of the first
lookup is the one written out. The text of the set lists every specification, then every body,
each package in the order of its lower-case name and each text after a header.
-/

namespace GirAda.Ada

open GirAda.Gir GirAda.Text

/-- The packages of a run, under their names in lower case. -/
structure PackageSet where
  packages : Index Package
  deriving Inhabited

namespace PackageSet

/-- No packages. -/
def empty : PackageSet := ⟨Index.empty⟩

/-- The key of a package name. -/
def key (name : String) : String := lowerText name

/-- The package of a name, if it was created. -/
def get? (ps : PackageSet) (name : String) : Option Package := ps.packages.get? (key name)

/-- The package of a name, as it is or new. -/
def current (ps : PackageSet) (name : String) : Package := (ps.get? name).getD (Package.new name)

/-- Store a package under a name, in place of the one there. -/
def put (ps : PackageSet) (name : String) (p : Package) : PackageSet :=
  ⟨ps.packages.insert (key name) p⟩

/-- Change the package of a name, creating it first if needed. -/
def update (ps : PackageSet) (name : String) (f : Package → Package) : PackageSet :=
  ps.put name (f (ps.current name))

/-- Make sure the package of a name exists. -/
def touch (ps : PackageSet) (name : String) : PackageSet := ps.update name id

/-- The number of packages. -/
def size (ps : PackageSet) : Nat := ps.packages.size

/-- Whether there are no packages. -/
def isEmpty (ps : PackageSet) : Bool := ps.size == 0

/-- The packages in the order of their keys. -/
def sorted (ps : PackageSet) : List Package :=
  (ps.packages.entries.mergeSort fun a b => decide (a.1 ≤ b.1)).map Prod.snd

/-- Every specification, then every body, each after the header and followed by a blank line. -/
def render (ps : PackageSet) (header : String) : String :=
  String.join (ps.sorted.map fun p => header ++ p.specText ++ "\n") ++
    String.join (ps.sorted.filterMap fun p => p.bodyText.map fun b => header ++ b ++ "\n")

end PackageSet

end GirAda.Ada
