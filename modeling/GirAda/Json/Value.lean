import GirAda.Floating.Shortest
import GirAda.Text.Printable

/-!
# JSON values

A JSON document as data, and the words used to describe a value that is not what a reader
expected. Numbers keep the distinction readers make: a whole number that fits in 64 bits
unsigned, a negative whole number that fits in 64 bits signed, and any other number, kept as
the binary64 number it was read as. A number is described by its shortest decimal, and a
string as written for debugging.
-/

namespace GirAda.Json

/-- A JSON number. -/
inductive Number where
  /-- A whole number from 0 below 2 ^ 64. -/
  | natural (n : Nat)
  /-- A negative whole number not below -2 ^ 63. -/
  | negative (n : Int)
  /-- Any other number, as the binary64 number it reads as. -/
  | float (x : Binary64)
  deriving DecidableEq, Repr, Inhabited

/-- A JSON value. -/
inductive Value where
  | null
  | bool (b : Bool)
  | number (n : Number)
  | string (s : String)
  | array (items : List Value)
  | object (fields : List (String × Value))
  deriving Repr, Inhabited

/-- What a value was, when it was not what a reader expected. -/
inductive Unexpected where
  | bool (b : Bool)
  | unsigned (n : Nat)
  | signed (n : Int)
  | float (text : String)
  | str (s : String)
  | unit
  | seq
  | map
  deriving DecidableEq, Repr, Inhabited

/-- A string as written for debugging: quoted, with quotes, backslashes and the common control
characters escaped by a backslash, and every other character that is unprintable or extends the
one before it written as `\u` and its code in hexadecimal between braces. -/
def debugQuoted (s : String) : String :=
  "\"" ++ String.join (s.toList.map escape) ++ "\""
where
  /-- One character, escaped if needed. -/
  escape (c : Char) : String :=
    if c == '"' then "\\\""
    else if c == '\\' then "\\\\"
    else if c == '\n' then "\\n"
    else if c == '\r' then "\\r"
    else if c == '\t' then "\\t"
    else if c == '\x00' then "\\0"
    else if Text.isGraphemeExtend c || !Text.isPrintable c then
      "\\u" ++ "\x7b" ++ String.ofList (Nat.toDigits 16 c.toNat) ++ "\x7d"
    else c.toString

namespace Unexpected

/-- How the value is described in an error. -/
def describe : Unexpected → String
  | .bool b => "boolean `" ++ (if b then "true" else "false") ++ "`"
  | .unsigned n => "integer `" ++ toString n ++ "`"
  | .signed n => "integer `" ++ toString n ++ "`"
  | .float t => "floating point `" ++ t ++ "`"
  | .str s => "string " ++ debugQuoted s
  | .unit => "null"
  | .seq => "sequence"
  | .map => "map"

end Unexpected

/-- The description of a number. -/
def Number.unexpected : Number → Unexpected
  | .natural n => .unsigned n
  | .negative n => .signed n
  | .float x => .float x.text

/-- The description of a value. -/
def Value.unexpected : Value → Unexpected
  | .null => .unit
  | .bool b => .bool b
  | .number n => n.unexpected
  | .string s => .str s
  | .array _ => .seq
  | .object _ => .map

/-- The error for a value of the wrong type. -/
def invalidType (u : Unexpected) (expected : String) : String :=
  "invalid type: " ++ u.describe ++ ", expected " ++ expected

/-- The error for a sequence of the wrong length. -/
def invalidLength (n : Nat) (expected : String) : String :=
  "invalid length " ++ toString n ++ ", expected " ++ expected

example : debugQuoted "a\"b" = "\"a\\\"b\"" := by decide

end GirAda.Json
