import GirAda.Ada.Mapping
import GirAda.Text.Blank

/-!
# The type table

Table-driven substitutions for native scalar types: mappings by native name, C spellings that
stand for a native name, and mappings for arrays by element type. Later entries replace earlier
ones. The default table maps the GLib scalars, booleans, strings, addresses and string arrays.
-/

namespace GirAda.Ada

open GirAda.Text

/-- Mappings by native name, aliases by C spelling, and array mappings by element type; each
list has its latest entry first. -/
structure TypeTable where
  byName : List (String × Mapping)
  aliases : List (String × String)
  arrays : List (String × Mapping)
  deriving Inhabited

/-- The value of the latest entry under a key. -/
def latestEntry {α : Type} (es : List (String × α)) (k : String) : Option α :=
  (es.find? (·.1 == k)).map Prod.snd

/-- Drop every leading `const ` of a C spelling. -/
def dropConst : List Char → List Char
  | 'c' :: 'o' :: 'n' :: 's' :: 't' :: ' ' :: cs => dropConst cs
  | cs => cs

namespace TypeTable

/-- The table without entries. -/
def empty : TypeTable := ⟨[], [], []⟩

/-- Map a native name. -/
def insert (t : TypeTable) (native : String) (m : Mapping) : TypeTable :=
  { t with byName := (native, m) :: t.byName }

/-- Let a C spelling stand for a native name. -/
def addAlias (t : TypeTable) (cType native : String) : TypeTable :=
  { t with aliases := (cType, native) :: t.aliases }

/-- Map arrays of elements of a native type. -/
def insertArray (t : TypeTable) (element : String) (m : Mapping) : TypeTable :=
  { t with arrays := (element, m) :: t.arrays }

/-- The mapping of a type, by native name first, then by C spelling (leading `const ` and
blanks at both ends dropped); with the native name the entry is filed under. -/
def lookup (t : TypeTable) (name cType : Option String) : Option (String × Mapping) :=
  let byName := name.bind fun n => (latestEntry t.byName n).map (n, ·)
  match byName with
  | some r => some r
  | none =>
    cType.bind fun c =>
      (latestEntry t.aliases (trim (String.ofList (dropConst c.toList)))).bind fun n =>
        (latestEntry t.byName n).map (n, ·)

/-- The mapping of arrays of a native element type. -/
def lookupArray (t : TypeTable) (element : String) : Option Mapping := latestEntry t.arrays element

/-- The GLib scalar types with the same spelling in Ada, capitalized. -/
def glibScalars : List (String × String) :=
  [("gint", "Gint"), ("guint", "Guint"), ("gint8", "Gint8"), ("guint8", "Guint8"),
   ("gint16", "Gint16"), ("guint16", "Guint16"), ("gint32", "Gint32"), ("guint32", "Guint32"),
   ("gint64", "Gint64"), ("guint64", "Guint64"), ("glong", "Glong"), ("gulong", "Gulong"),
   ("gsize", "Gsize"), ("gssize", "Gssize"), ("gfloat", "Gfloat"), ("gdouble", "Gdouble"),
   ("gchar", "Gchar"), ("guchar", "Guchar"), ("gunichar", "Gunichar"), ("GType", "GType")]

/-- Booleans are Ada `Boolean`, passed as their position. -/
def booleanMapping : Mapping :=
  ⟨"Boolean", "Boolean", "Gboolean", .ofExpr ("Boolean'Pos (" ++ hole ++ ")"),
    .ofExpr ("Boolean'Val (" ++ hole ++ ")"), ["Glib"], false⟩

/-- Strings are passed as new C strings, freed after the call. -/
def stringMapping : Mapping :=
  ⟨"UTF8_String", "UTF8_String", "Interfaces.C.Strings.chars_ptr",
    .through "Interfaces.C.Strings.chars_ptr" ("New_String (" ++ hole ++ ")")
      (some ("Free (" ++ hole ++ ");")),
    .ofExpr ("Interfaces.C.Strings.Value (" ++ hole ++ ")"), ["Glib", "Interfaces.C.Strings"],
    true⟩

/-- Untyped pointers are addresses. -/
def addressMapping : Mapping := { Mapping.direct "System.Address" (some "System") with nativePointer := true }

/-- Arrays of strings are string lists, passed as new C arrays, freed after the call. -/
def stringListMapping : Mapping :=
  ⟨"GNAT.Strings.String_List", "GNAT.Strings.String_List", "Gtkada.Types.Chars_Ptr_Array",
    .through "Gtkada.Types.Chars_Ptr_Array" ("From_String_List (" ++ hole ++ ")")
      (some ("Gtkada.Types.Free (" ++ hole ++ ");")),
    .identity, ["GNAT.Strings", "Gtkada.Bindings", "Gtkada.Types"], true⟩

/-- The default table. -/
def default : TypeTable :=
  let t := glibScalars.foldl (fun t (n, a) => t.insert n (Mapping.direct a (some "Glib"))) empty
  let t := t.insert "gboolean" booleanMapping
  let t := (t.insert "utf8" stringMapping).insert "filename" stringMapping
  let t := (t.addAlias "gchar*" "utf8").addAlias "char*" "utf8"
  let t := (t.insert "gpointer" addressMapping).insert "gconstpointer" addressMapping
  (t.insertArray "utf8" stringListMapping).insertArray "filename" stringListMapping

end TypeTable

end GirAda.Ada
