import GirAda.Config.Basic
import GirAda.Json.Value

/-!
# Settings from a JSON value

Settings are read from an object whose fields are looked at in the order of their names, or
from an array holding the settings by position (output path, hook classes, only class, naming
exceptions). Every setting left out keeps its default, and unknown fields are ignored. The first
value of the wrong shape decides the error; an array with more than the four settings is an
error once the four are read.
-/

namespace GirAda.Config

open GirAda.Json

/-- What settings are expected to be. -/
def expectedSettings : String := "struct GenConfig"

/-- What an output path is expected to be. -/
def expectedPath : String := "path string"

/-- A string, or the error for what the value is instead. -/
def stringOf (expected : String) : Value → Except String String
  | .string s => .ok s
  | v => .error (invalidType v.unexpected expected)

/-- An optional string: `null` is none. -/
def optionOf : Value → Except String (Option String)
  | .null => .ok none
  | v => some <$> stringOf "a string" v

/-- A list of strings. -/
def stringsOf : Value → Except String (List String)
  | .array items => items.mapM (stringOf "a string")
  | v => .error (invalidType v.unexpected "a sequence")

/-- What a naming exception is expected to be. -/
def expectedPair : String := "a tuple of size 2"

/-- A pair of strings, from an array of exactly two strings. -/
def pairOf : Value → Except String (String × String)
  | .array [] => .error (invalidLength 0 expectedPair)
  | .array [a] => do
    let _ ← stringOf "a string" a
    .error (invalidLength 1 expectedPair)
  | .array (a :: b :: rest) => do
    let x ← stringOf "a string" a
    let y ← stringOf "a string" b
    if rest.isEmpty then return (x, y)
    else .error (invalidLength (rest.length + 2) "fewer elements in array")
  | v => .error (invalidType v.unexpected expectedPair)

/-- A list of naming exceptions. -/
def pairsOf : Value → Except String (List (String × String))
  | .array items => items.mapM pairOf
  | v => .error (invalidType v.unexpected "a sequence")

/-- Settings with one named field read from a value; unknown names change nothing. -/
def setField (c : Config) (name : String) (v : Value) : Except String Config :=
  match name with
  | "output_path" => return { c with outputPath := ← stringOf expectedPath v }
  | "hook_classes" => return { c with hookClasses := ← stringsOf v }
  | "only_class" => return { c with onlyClass := ← optionOf v }
  | "naming_exceptions" => return { c with namingExceptions := ← pairsOf v }
  | _ => return c

/-- The names of the settings, in their order. -/
def fieldNames : List String := ["output_path", "hook_classes", "only_class", "naming_exceptions"]

/-- Settings from a JSON value, or the error text. -/
def ofValue : Value → Except String Config
  | .object fields =>
    (fields.mergeSort fun a b => decide (a.1 ≤ b.1)).foldlM (fun c (k, v) => c.setField k v) default
  | .array items => do
    let c ← (fieldNames.zip items).foldlM (fun c (k, v) => c.setField k v) default
    if items.length > fieldNames.length then
      .error (invalidLength items.length "fewer elements in array")
    else return c
  | v => .error (invalidType v.unexpected expectedSettings)

end GirAda.Config
