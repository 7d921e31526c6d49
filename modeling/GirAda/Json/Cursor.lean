import GirAda.Json.Value

/-!
# Reading JSON text: positions and errors

A reader walks JSON text from the left and keeps its position: the line (from 1) and the
number of bytes read on that line. An error names the position either of what was read last
(`failHere`) or of the next character (`failPeek`); an error raised by whoever consumes the
values (a value of the wrong type, say) has no position until the enclosing array or object
gives it the position reached when it was given up. Reading is a state with errors
(`EStateM`): after an error the position stays where reading stopped, which is what the
enclosing array or object reports.
-/

namespace GirAda.Json

/-- Why JSON text could not be read. -/
inductive Fault where
  | eofWhileParsingList
  | eofWhileParsingObject
  | eofWhileParsingString
  | eofWhileParsingValue
  | expectedColon
  | expectedListCommaOrEnd
  | expectedObjectCommaOrEnd
  | expectedSomeIdent
  | expectedSomeValue
  | invalidEscape
  | invalidNumber
  | numberOutOfRange
  | controlCharacter
  | keyMustBeAString
  | loneLeadingSurrogate
  | trailingComma
  | trailingCharacters
  | unexpectedEndOfHexEscape
  /-- A value that is not what the reader of the values wanted. -/
  | custom (message : String)
  deriving DecidableEq, Repr, Inhabited

/-- The text of a fault. -/
def Fault.message : Fault → String
  | .eofWhileParsingList => "EOF while parsing a list"
  | .eofWhileParsingObject => "EOF while parsing an object"
  | .eofWhileParsingString => "EOF while parsing a string"
  | .eofWhileParsingValue => "EOF while parsing a value"
  | .expectedColon => "expected `:`"
  | .expectedListCommaOrEnd => "expected `,` or `]`"
  | .expectedObjectCommaOrEnd => "expected `,` or `\x7d`"
  | .expectedSomeIdent => "expected ident"
  | .expectedSomeValue => "expected value"
  | .invalidEscape => "invalid escape"
  | .invalidNumber => "invalid number"
  | .numberOutOfRange => "number out of range"
  | .controlCharacter => "control character (\\u0000-\\u001F) found while parsing a string"
  | .keyMustBeAString => "key must be a string"
  | .loneLeadingSurrogate => "lone leading surrogate in hex escape"
  | .trailingComma => "trailing comma"
  | .trailingCharacters => "trailing characters"
  | .unexpectedEndOfHexEscape => "unexpected end of hex escape"
  | .custom m => m

/-- A fault, with the line and column where it was found once that is known. -/
structure ReadError where
  fault : Fault
  position : Option (Nat × Nat)
  deriving DecidableEq, Repr, Inhabited

/-- The text of an error: the fault, then where it was found. -/
def ReadError.message (e : ReadError) : String :=
  e.fault.message ++ match e.position with
    | some (line, column) => " at line " ++ toString line ++ " column " ++ toString column
    | none => ""

/-- Where reading stands: the text left, its line, and the bytes read on that line. -/
structure Cursor where
  rest : List Char
  line : Nat
  column : Nat
  deriving DecidableEq, Repr, Inhabited

namespace Cursor

/-- The start of a text. -/
def start (s : String) : Cursor := ⟨s.toList, 1, 0⟩

/-- The position after reading one more character. -/
def step (pos : Nat × Nat) (c : Char) : Nat × Nat :=
  if c == '\n' then (pos.1 + 1, 0) else (pos.1, pos.2 + c.utf8Size)

/-- The position of what was read last. -/
def position (c : Cursor) : Nat × Nat := (c.line, c.column)

/-- The position of the next character: just past its first byte. -/
def peekPosition (c : Cursor) : Nat × Nat :=
  match c.rest with
  | ch :: _ => if ch == '\n' then (c.line + 1, 0) else (c.line, c.column + 1)
  | [] => (c.line, c.column)

/-- Read `n` characters. -/
def skip (c : Cursor) (n : Nat) : Cursor :=
  let (line, column) := (c.rest.take n).foldl step c.position
  ⟨c.rest.drop n, line, column⟩

/-- Move `n` bytes ahead; a character cut in two counts its bytes on the current line. -/
def skipBytes (c : Cursor) : Nat → Cursor
  | 0 => c
  | n + 1 =>
    match c.rest with
    | [] => c
    | ch :: _ =>
      if ch.utf8Size ≤ n + 1 then (c.skip 1).skipBytes (n + 1 - ch.utf8Size)
      else { c with column := c.column + n + 1 }
termination_by n => n
decreasing_by have := ch.utf8Size_pos; omega

end Cursor

/-- Reading JSON text: a state of position with errors. -/
abbrev Reader := EStateM ReadError Cursor

namespace Reader

variable {α : Type}

/-- The next character, not read. -/
def peek : Reader (Option Char) := fun c => .ok c.rest.head? c

/-- Read one character. -/
def eat : Reader Unit := modify (·.skip 1)

/-- Read the next character. -/
def next : Reader (Option Char) := do
  let ch ← peek
  eat
  return ch

/-- Fail at the position of what was read last. -/
def failHere (f : Fault) : Reader α := do throw ⟨f, some (← get).position⟩

/-- Fail at the position of the next character. -/
def failPeek (f : Fault) : Reader α := do throw ⟨f, some (← get).peekPosition⟩

/-- Fail with a message for the reader of the values, without a position yet. -/
def failCustom (message : String) : Reader α := throw ⟨.custom message, none⟩

/-- Fail with an error, giving it the current position if it has none. -/
def fail (e : ReadError) : Reader α := do
  match e.position with
  | some _ => throw e
  | none => throw { e with position := some (← get).position }

/-- Run a reader and keep its outcome, the position staying where it stopped. -/
def attempt (r : Reader α) : Reader (Except ReadError α) := fun c =>
  match r c with
  | .ok a c' => .ok (.ok a) c'
  | .error e c' => .ok (.error e) c'

/-- Whether a character is a JSON blank. -/
def isBlank (c : Char) : Bool := c == ' ' || c == '\n' || c == '\t' || c == '\r'

/-- Read blanks; the next character after them. -/
def skipBlanks : Reader (Option Char) := do
  let c ← get
  set (c.skip (c.rest.takeWhile isBlank).length)
  peek

/-- Read the rest of a literal word, each character as expected. -/
def ident : List Char → Reader Unit
  | [] => pure ()
  | x :: xs => do
    match ← next with
    | none => failHere .eofWhileParsingValue
    | some ch => if ch == x then ident xs else failHere .expectedSomeIdent

end Reader

end GirAda.Json
