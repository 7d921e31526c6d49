/-!
# Run settings

What a generation run can be told: where its text goes, which classes are hooks for
hand-written code (never generated on their own), a single class to generate instead of all,
and extra casing fixes for Ada names. Every setting has a default.
-/

namespace GirAda

/-- The settings of a generation run. -/
structure Config where
  /-- Where the generated text is written. -/
  outputPath : String
  /-- Classes used only as hooks by hand-written code. -/
  hookClasses : List String
  /-- The one class to generate, if set. -/
  onlyClass : Option String
  /-- Extra casing fixes, such as `Treeselection` to `Tree_Selection`. -/
  namingExceptions : List (String × String)
  deriving Repr, Inhabited, DecidableEq

namespace Config

/-- The defaults of every setting. -/
def default : Config where
  outputPath := "generated/tmp.ada"
  hookClasses := ["Widget", "Object", "Container", "Style"]
  onlyClass := none
  namingExceptions := [("Treeselection", "Tree_Selection"), ("Selectionmode", "Selection_Mode")]

/-- Whether a class is a hook class. -/
def isHookClass (c : Config) (name : String) : Bool := c.hookClasses.contains name

/-- The first naming exception that maps to an empty name, by the name it maps from. -/
def emptyException (c : Config) : Option String :=
  (c.namingExceptions.find? (·.2.isEmpty)).map Prod.fst

example : default.isHookClass "Style" = true ∧ default.isHookClass "style" = false := by decide

end Config

end GirAda
