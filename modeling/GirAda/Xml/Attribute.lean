import GirAda.Xml.Token

/-!
# Attributes of a tag

After its name, a tag holds attributes `key="value"` or `key='value'`, with blanks allowed
around the `=` and between attributes. `readAttributes` reads them in order, one character at
a time, and stops at the first malformed one: a key without `=`, an `=` without a value, a
value without quotes or without its closing quote, or (when asked) a key written twice.
Offsets in faults count bytes from the start of the tag, name included.
-/

namespace GirAda.Xml

open GirAda.Text

/-- An attribute as written: its key, its value with references not yet decoded, and the byte
offset of the key in the tag. -/
structure RawAttribute where
  key : String
  value : String
  keyAt : Nat
  deriving DecidableEq, Repr

/-- Where the reading of attributes stands. Keys and values being read are kept reversed. -/
inductive AttrState where
  | between
  | key (start : Nat) (chars : List Char)
  | afterKey (start : Nat) (chars : List Char)
  | beforeValue (start : Nat) (chars : List Char)
  | value (start : Nat) (key : List Char) (quote : Char) (chars : List Char)

/-- The offset of an earlier key equal to `key`, if any. -/
def earlierKey (seen : List (List Char × Nat)) (key : List Char) : Option Nat :=
  (seen.find? (fun s => s.1 == key)).map Prod.snd

/-- The offset of an earlier key equal to the key `k` (reversed), when keys are checked. -/
def duplicateOf (check : Bool) (seen : List (List Char × Nat)) (k : List Char) : Option Nat :=
  if check then earlierKey seen k.reverse else none

/-- Read attributes from `cs`, which starts at byte `pos` of a tag of `total` bytes, in state
`st`; `seen` holds the keys read so far with their offsets, and `check` asks for the check
against keys written twice. -/
def readAttrsFrom (check : Bool) (total : Nat) :
    List (List Char × Nat) → AttrState → Nat → List Char → List RawAttribute × Option AttrFault
  | _, .between, _, [] => ([], none)
  | _, .key _ _, _, [] => ([], some (.expectedEq total))
  | _, .afterKey _ _, _, [] => ([], some (.expectedEq total))
  | _, .beforeValue _ _, _, [] => ([], some (.expectedValue total))
  | _, .value _ _ q _, _, [] => ([], some (.expectedQuote total q))
  | seen, .between, pos, c :: cs =>
    if isMarkupBlank c then readAttrsFrom check total seen .between (pos + c.utf8Size) cs
    else readAttrsFrom check total seen (.key pos [c]) (pos + c.utf8Size) cs
  | seen, .key s k, pos, c :: cs =>
    if c == '=' then
      match duplicateOf check seen k with
      | some prev => ([], some (.duplicated s prev))
      | none => readAttrsFrom check total ((k.reverse, s) :: seen) (.beforeValue s k) (pos + 1) cs
    else if isMarkupBlank c then readAttrsFrom check total seen (.afterKey s k) (pos + c.utf8Size) cs
    else readAttrsFrom check total seen (.key s (c :: k)) (pos + c.utf8Size) cs
  | seen, .afterKey s k, pos, c :: cs =>
    if c == '=' then
      match duplicateOf check seen k with
      | some prev => ([], some (.duplicated s prev))
      | none => readAttrsFrom check total ((k.reverse, s) :: seen) (.beforeValue s k) (pos + 1) cs
    else if isMarkupBlank c then readAttrsFrom check total seen (.afterKey s k) (pos + c.utf8Size) cs
    else ([], some (.expectedEq pos))
  | seen, .beforeValue s k, pos, c :: cs =>
    if isMarkupBlank c then readAttrsFrom check total seen (.beforeValue s k) (pos + c.utf8Size) cs
    else if c == '"' || c == apostrophe then
      readAttrsFrom check total seen (.value s k c []) (pos + c.utf8Size) cs
    else ([], some (.unquotedValue pos))
  | seen, .value s k q v, pos, c :: cs =>
    if c == q then
      let (rest, fault) := readAttrsFrom check total seen .between (pos + c.utf8Size) cs
      (⟨String.ofList k.reverse, String.ofList v.reverse, s⟩ :: rest, fault)
    else readAttrsFrom check total seen (.value s k q (c :: v)) (pos + c.utf8Size) cs

/-- The attributes of a tag, in order, and the fault that ended their reading, if any. -/
def readAttributes (check : Bool) (tag : String) : List RawAttribute × Option AttrFault :=
  let cs := tag.toList
  let name := tagName cs
  readAttrsFrom check (byteLength cs) [] .between (byteLength name) (cs.drop name.length)

example : readAttributes true "a x=\"1\" y = '2'" =
    ([⟨"x", "1", 2⟩, ⟨"y", "2", 8⟩], none) := by decide
example : readAttributes true "a x" = ([], some (.expectedEq 3)) := by decide
example : (readAttributes true "a x='1' x='2'").2 = some (.duplicated 8 2) := by decide

end GirAda.Xml
