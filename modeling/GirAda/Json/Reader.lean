import GirAda.Json.Token

/-!
# Reading JSON values

The pieces of a decoder that reads typed values straight from JSON text: a value of the wrong
type is described in the error, a value of any kind can be skipped (but is checked), arrays and
objects are read element by element and member by member, and the end of each is checked after
its contents, even when reading the contents failed. `run` reads a whole text, which may end in
blanks only, and `Value.ofText` reads one as a value of any kind, an object keeping the last
member with each key.
-/

namespace GirAda.Json

namespace Reader

variable {α : Type}

/-- Fail because the next value is not what `expected` says; the value is read to describe it. -/
def invalidHere (expected : String) : Reader α := do
  let u : Unexpected ← match ← peek with
    | some 'n' => eat; ident ['u', 'l', 'l']; pure .unit
    | some 't' => eat; ident ['r', 'u', 'e']; pure (.bool true)
    | some 'f' => eat; ident ['a', 'l', 's', 'e']; pure (.bool false)
    | some '-' => eat; pure (← number true).unexpected
    | some '"' => eat; pure (.str (← string))
    | some '[' => pure .seq
    | some '{' => pure .map
    | some d => if isDigit d then pure (← number false).unexpected else failPeek .expectedSomeValue
    | none => failPeek .expectedSomeValue
  fail ⟨.custom (invalidType u expected), none⟩

/-- Close the arrays and objects a skipped value ends: `frame` is the innermost one open and
`outer` the ones around it. Gives the innermost one still open, with those around it, or
nothing when the value is complete. -/
def closeFrames : Nat → Bool → Char → List Char → Reader (Option (Char × List Char))
  | 0, _, _, _ => failPeek .eofWhileParsingValue
  | fuel + 1, acceptComma, frame, outer => do
    match ← skipBlanks with
    | some ',' =>
      if acceptComma then eat; return some (frame, outer)
      else return some (frame, outer)
    | some ']' =>
      if frame == '[' then
        eat
        match outer with
        | [] => return none
        | f :: fs => closeFrames fuel true f fs
      else if acceptComma then failPeek .expectedObjectCommaOrEnd
      else return some (frame, outer)
    | some '}' =>
      if frame == '{' then
        eat
        match outer with
        | [] => return none
        | f :: fs => closeFrames fuel true f fs
      else if acceptComma then failPeek .expectedListCommaOrEnd
      else return some (frame, outer)
    | some _ =>
      if acceptComma then
        failPeek (if frame == '[' then .expectedListCommaOrEnd else .expectedObjectCommaOrEnd)
      else return some (frame, outer)
    | none => failPeek (if frame == '[' then .eofWhileParsingList else .eofWhileParsingObject)

/-- Check the key and colon of a member of an object that is skipped. -/
def skipKey : Reader Unit := do
  match ← skipBlanks with
  | some '"' => eat
  | some _ => failPeek .keyMustBeAString
  | none => failPeek .eofWhileParsingObject
  skipString
  match ← skipBlanks with
  | some ':' => eat
  | some _ => failPeek .expectedColon
  | none => failPeek .eofWhileParsingObject

/-- Skip values inside the open arrays and objects `open`, innermost first. -/
def skipValues : Nat → List Char → Reader Unit
  | 0, _ => failPeek .eofWhileParsingValue
  | fuel + 1, opened => do
    let frame? ← match ← skipBlanks with
      | none => failPeek .eofWhileParsingValue
      | some 'n' => eat; ident ['u', 'l', 'l']; pure none
      | some 't' => eat; ident ['r', 'u', 'e']; pure none
      | some 'f' => eat; ident ['a', 'l', 's', 'e']; pure none
      | some '-' => eat; skipNumber; pure none
      | some '"' => eat; skipString; pure none
      | some '[' => eat; pure (some '[')
      | some '{' => eat; pure (some '{')
      | some d => if isDigit d then skipNumber *> pure none else failPeek .expectedSomeValue
    let next ← match frame?, opened with
      | some f, _ => closeFrames fuel false f opened
      | none, f :: fs => closeFrames fuel true f fs
      | none, [] => pure none
    match next with
    | none => pure ()
    | some (f, fs) =>
      if f == '{' then skipKey
      skipValues fuel (f :: fs)

/-- Skip a value of any kind, checking that it is well formed. -/
def skipValue : Reader Unit := do skipValues ((← get).rest.length + 1) []

/-- The end of an array whose elements were read. -/
def endArray : Reader Unit := do
  match ← skipBlanks with
  | some ']' => eat
  | some ',' =>
    eat
    match ← skipBlanks with
    | some ']' => failPeek .trailingComma
    | _ => failPeek .trailingCharacters
  | some _ => failPeek .trailingCharacters
  | none => failPeek .eofWhileParsingList

/-- The end of an object whose members were read. -/
def endObject : Reader Unit := do
  match ← skipBlanks with
  | some '}' => eat
  | some ',' => failPeek .trailingComma
  | some _ => failPeek .trailingCharacters
  | none => failPeek .eofWhileParsingObject

/-- The end of the text: nothing but blanks may follow. -/
def endOfText : Reader Unit := do
  match ← skipBlanks with
  | some _ => failPeek .trailingCharacters
  | none => pure ()

/-- Whether there is another element of an array, standing at it; `first` tells whether none
was read yet. -/
def nextElement (first : Bool) : Reader Bool := do
  match ← skipBlanks with
  | some ']' => return false
  | some ',' =>
    if first then return true
    else
      eat
      match ← skipBlanks with
      | some ']' => failPeek .trailingComma
      | some _ => return true
      | none => failPeek .eofWhileParsingValue
  | some _ => if first then return true else failPeek .expectedListCommaOrEnd
  | none => failPeek .eofWhileParsingList

/-- The key of the next member of an object, if there is one; `first` tells whether none was
read yet. -/
def nextKey (first : Bool) : Reader (Option String) := do
  let at? ← match ← skipBlanks with
    | some '}' => return none
    | some ',' =>
      if first then pure (some ',')
      else eat; skipBlanks
    | some ch => if first then pure (some ch) else failPeek .expectedObjectCommaOrEnd
    | none => failPeek .eofWhileParsingObject
  match at? with
  | some '"' => eat; return some (← string)
  | some '}' => failPeek .trailingComma
  | some _ => failPeek .keyMustBeAString
  | none => failPeek .eofWhileParsingValue

/-- The colon after a key. -/
def colon : Reader Unit := do
  match ← skipBlanks with
  | some ':' => eat
  | some _ => failPeek .expectedColon
  | none => failPeek .eofWhileParsingObject

/-- The elements of an array read by `visit`, or an error saying that the value is not what
`expected` says. The end of the array is read even when `visit` failed, and an error without a
position gets the one reached then. -/
def array (expected : String) (visit : Reader α) : Reader α := do
  match ← skipBlanks with
  | none => failPeek .eofWhileParsingValue
  | some '[' =>
    eat
    let ret ← attempt visit
    let fin ← attempt endArray
    match ret, fin with
    | .ok a, .ok () => return a
    | .error e, _ => fail e
    | .ok _, .error e => fail e
  | some _ => invalidHere expected

/-- The members of an object read by `visit`, with its end, as for arrays. -/
def object (expected : String) (visit : Reader α) : Reader α := do
  match ← skipBlanks with
  | none => failPeek .eofWhileParsingValue
  | some '{' =>
    eat
    let ret ← attempt visit
    let fin ← attempt endObject
    match ret, fin with
    | .ok a, .ok () => return a
    | .error e, _ => fail e
    | .ok _, .error e => fail e
  | some _ => invalidHere expected

/-- A string value, or an error saying that the value is not what `expected` says. -/
def stringValue (expected : String) : Reader String := do
  match ← skipBlanks with
  | none => failPeek .eofWhileParsingValue
  | some '"' => eat; string
  | some _ => invalidHere expected

/-- `null`, or a string. -/
def optionalString : Reader (Option String) := do
  match ← skipBlanks with
  | some 'n' => eat; ident ['u', 'l', 'l']; return none
  | _ => some <$> stringValue "a string"

/-- Put a member into the members of an object read so far, in place of one with the same key:
the last member with a key is the one kept. -/
def putMember (fields : List (String × Value)) (key : String) (v : Value) :
    List (String × Value) :=
  if fields.any (·.1 == key) then fields.map (fun f => if f.1 == key then (key, v) else f)
  else fields ++ [(key, v)]

mutual

/-- A value of any kind, with `fuel` rounds for its parts. -/
def valueWith : Nat → Reader Value
  | 0 => failPeek .eofWhileParsingValue
  | fuel + 1 => do
    match ← skipBlanks with
    | none => failPeek .eofWhileParsingValue
    | some 'n' => eat; ident ['u', 'l', 'l']; return .null
    | some 't' => eat; ident ['r', 'u', 'e']; return .bool true
    | some 'f' => eat; ident ['a', 'l', 's', 'e']; return .bool false
    | some '-' => eat; return .number (← number true)
    | some '"' => eat; return .string (← string)
    | some '[' =>
      eat
      let items ← elementsWith fuel true
      endArray
      return .array items
    | some '{' =>
      eat
      let fields ← membersWith fuel true []
      endObject
      return .object fields
    | some d => if isDigit d then return .number (← number false) else failPeek .expectedSomeValue

/-- The elements of an array, standing at the next one; `first` tells whether none was read. -/
def elementsWith : Nat → Bool → Reader (List Value)
  | 0, _ => failPeek .eofWhileParsingList
  | fuel + 1, first => do
    if ← nextElement first then
      let v ← valueWith fuel
      let rest ← elementsWith fuel false
      return v :: rest
    else return []

/-- The members of an object, standing at the next one, added to `fields`. -/
def membersWith : Nat → Bool → List (String × Value) → Reader (List (String × Value))
  | 0, _, _ => failPeek .eofWhileParsingObject
  | fuel + 1, first, fields => do
    match ← nextKey first with
    | none => return fields
    | some key =>
      colon
      let v ← valueWith fuel
      membersWith fuel false (putMember fields key v)

end

/-- A value of any kind. Every round reads at least one character, so the characters left bound
the rounds. -/
def value : Reader Value := do valueWith ((← get).rest.length + 1)

/-- Run a reader on a whole text. -/
def run (r : Reader α) (s : String) : Except ReadError α :=
  match (do let a ← r; endOfText; pure a) (Cursor.start s) with
  | .ok a _ => .ok a
  | .error e _ => .error e

end Reader

/-- Read a whole text as a value. -/
def Value.ofText (s : String) : Except ReadError Value := Reader.run Reader.value s

/-- The value of a member of an object, if it is an object with such a member. -/
def Value.field? (v : Value) (key : String) : Option Value :=
  match v with
  | .object fields => (fields.find? (·.1 == key)).map (·.2)
  | _ => none

end GirAda.Json
