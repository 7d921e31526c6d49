import GirAda.Config.OfValue
import GirAda.Json.Reader
import GirAda.FileFault

/-!
# Settings files

Settings are read straight from JSON text: an object whose members are read in the order they
are written (a setting named twice is an error, unknown members are skipped after checking
them), or an array of the settings by position. A settings file is then checked: no naming
exception may map to an empty name.

Errors name the place in the text where reading stopped, as `at line L column C`.
-/

namespace GirAda.Config

open GirAda.Json GirAda.Json.Reader

/-- Why a settings file could not be used. -/
inductive ConfigError where
  /-- The file could not be read. -/
  | read (path : String) (fault : FileFault)
  /-- The file is not valid settings; the reader's error text. -/
  | parse (path : String) (error : String)
  /-- A naming exception maps this name to an empty name. -/
  | emptyException (name : String)
  deriving DecidableEq, Repr

namespace ConfigError

/-- The text of the error. -/
def message : ConfigError → String
  | .read p _ => "Could not read config \"" ++ p ++ "\""
  | .parse p _ => "Invalid config \"" ++ p ++ "\""
  | .emptyException n => "Naming exception \"" ++ n ++ "\" maps to an empty name"

/-- The errors behind the error, outermost first. -/
def causes : ConfigError → List String
  | .read _ f => [f.message]
  | .parse _ e => [e]
  | .emptyException _ => []

end ConfigError

/-- The elements of an array of strings, `first` telling whether none was read yet. -/
def stringElements : Nat → Bool → Reader (List String)
  | 0, _ => pure []
  | fuel + 1, first => do
    if ← nextElement first then
      let s ← stringValue "a string"
      return s :: (← stringElements fuel false)
    else return []

/-- A list of strings. -/
def readStrings : Reader (List String) :=
  array "a sequence" do stringElements ((← get).rest.length + 1) true

/-- A naming exception: an array of exactly two strings. -/
def readPair : Reader (String × String) :=
  array expectedPair do
    if !(← nextElement true) then failCustom (invalidLength 0 expectedPair)
    let a ← stringValue "a string"
    if !(← nextElement false) then failCustom (invalidLength 1 expectedPair)
    let b ← stringValue "a string"
    return (a, b)

/-- The elements of an array of naming exceptions. -/
def pairElements : Nat → Bool → Reader (List (String × String))
  | 0, _ => pure []
  | fuel + 1, first => do
    if ← nextElement first then
      let p ← readPair
      return p :: (← pairElements fuel false)
    else return []

/-- A list of naming exceptions. -/
def readPairs : Reader (List (String × String)) :=
  array "a sequence" do pairElements ((← get).rest.length + 1) true

/-- Read the value of a setting into the settings. -/
def readSetting (c : Config) : String → Reader Config
  | "output_path" => return { c with outputPath := ← stringValue expectedPath }
  | "hook_classes" => return { c with hookClasses := ← readStrings }
  | "only_class" => return { c with onlyClass := ← optionalString }
  | "naming_exceptions" => return { c with namingExceptions := ← readPairs }
  | _ => do skipValue; return c

/-- The members of a settings object; `seen` are the settings read so far. -/
def members : Nat → List String → Config → Reader Config
  | 0, _, c => pure c
  | fuel + 1, seen, c => do
    match ← nextKey seen.isEmpty with
    | none => return c
    | some k =>
      if fieldNames.contains k && seen.contains k then
        failCustom ("duplicate field `" ++ k ++ "`")
      colon
      let c ← readSetting c k
      members fuel (k :: seen) c

/-- The elements of a settings array, by position; `first` tells whether none was read yet. -/
def positional (c : Config) : List String → Bool → Reader Config
  | [], _ => pure c
  | k :: ks, first => do
    if ← nextElement first then
      let c ← readSetting c k
      positional c ks false
    else positional c ks first

/-- Settings from the text of a JSON value. -/
def readConfig : Reader Config := do
  match ← skipBlanks with
  | some '[' => array expectedSettings (positional default fieldNames true)
  | _ => object expectedSettings do members ((← get).rest.length + 1) [] default

/-- Settings from JSON text, or the reader's error text. -/
def ofText (s : String) : Except String Config :=
  match readConfig.run s with
  | .ok c => .ok c
  | .error e => .error e.message

/-- Settings from the contents of a file at a path, checked for empty naming exceptions. -/
def ofFile (path : String) (contents : Except FileFault String) : Except ConfigError Config := do
  let text ← match contents with
    | .ok t => pure t
    | .error f => throw (.read path f)
  let c ← match ofText text with
    | .ok c => pure c
    | .error e => throw (.parse path e)
  match c.emptyException with
  | some name => throw (.emptyException name)
  | none => return c

end GirAda.Config
