import GirAda.Text.Bytes

/-!
# Entity and character references

Character data and attribute values may hold references: the five predefined entities
`&lt;`, `&gt;`, `&amp;`, `&apos;`, `&quot;`, and character references `&#N;` (decimal) or
`&#xH;` (hexadecimal). `decode` replaces every reference by its text. A reference that is not
closed by `;` before the next `&`, an unknown entity, and a character reference that is signed,
not a number, outside the code points or zero are faults. Positions in faults are byte offsets
into the decoded text.
-/

namespace GirAda.Xml

open GirAda.Text

/-- Why a numeral does not read as an unsigned 32-bit number. -/
inductive NumeralFault where
  | empty
  | invalidDigit
  | tooLarge
  deriving DecidableEq, Repr

/-- The text of a numeral fault. -/
def NumeralFault.message : NumeralFault → String
  | .empty => "cannot parse integer from empty string"
  | .invalidDigit => "invalid digit found in string"
  | .tooLarge => "number too large to fit in target type"

/-- Why a character reference names no character. -/
inductive CharRefFault where
  | signed
  | numeral (fault : NumeralFault)
  | notScalar (code : Nat)
  | forbidden (code : Nat)
  deriving DecidableEq, Repr

/-- Lower-case hexadecimal digits of a number. -/
def hexDigits (n : Nat) : String := String.ofList (Nat.toDigits 16 n)

/-- The text of a character reference fault. -/
def CharRefFault.message : CharRefFault → String
  | .signed => "unexpected number sign"
  | .numeral f => f.message
  | .notScalar n => "`" ++ toString n ++ "` is not a valid codepoint"
  | .forbidden n => "0x" ++ hexDigits n ++ " character is not permitted in XML"

/-- The faults behind a character reference fault, outermost first. -/
def CharRefFault.causes : CharRefFault → List String
  | .numeral f => [f.message]
  | _ => []

/-- Why a text with references cannot be decoded. Ranges are byte offsets into the text. -/
inductive EscapeFault where
  | unknownEntity (first last : Nat) (name : String)
  | unterminated (first last : Nat)
  | charRef (fault : CharRefFault)
  deriving DecidableEq, Repr

/-- The text of an escape fault. -/
def EscapeFault.message : EscapeFault → String
  | .unknownEntity a b name =>
    "at " ++ toString a ++ ".." ++ toString b ++ ": unrecognized entity `" ++ name ++ "`"
  | .unterminated a b =>
    "Error while escaping character at range " ++ toString a ++ ".." ++ toString b ++
      ": Cannot find ';' after '&'"
  | .charRef f => "invalid character reference: " ++ f.message

/-- The faults behind an escape fault, outermost first. -/
def EscapeFault.causes : EscapeFault → List String
  | .charRef f => f.message :: f.causes
  | _ => []

/-- The value of a digit in the given radix (10 or 16). -/
def digitValue (radix : Nat) (c : Char) : Option Nat :=
  if '0' ≤ c && c ≤ '9' then some (c.toNat - '0'.toNat)
  else if radix == 16 && 'a' ≤ c && c ≤ 'f' then some (c.toNat - 'a'.toNat + 10)
  else if radix == 16 && 'A' ≤ c && c ≤ 'F' then some (c.toNat - 'A'.toNat + 10)
  else none

/-- Read the digits after the value `acc` read so far; a value of 2^32 or more is too large. -/
def readDigits (radix : Nat) (acc : Nat) : List Char → Except NumeralFault Nat
  | [] => .ok acc
  | c :: cs =>
    match digitValue radix c with
    | none => .error .invalidDigit
    | some d =>
      let n := radix * acc + d
      if n < 4294967296 then readDigits radix n cs else .error .tooLarge

/-- Read an unsigned 32-bit numeral in the given radix; a sign is refused. -/
def readNumeral (radix : Nat) : List Char → Except CharRefFault Nat
  | [] => .error (.numeral .empty)
  | c :: cs =>
    if c == '+' || c == '-' then .error .signed
    else (readDigits radix 0 (c :: cs)).mapError .numeral

/-- The character that a character reference's body (after `#`) names. -/
def charOfReference (body : List Char) : Except CharRefFault Char :=
  let code := match body with
    | 'x' :: hex => readNumeral 16 hex
    | dec => readNumeral 10 dec
  match code with
  | .error f => .error f
  | .ok 0 => .error (.forbidden 0)
  | .ok n =>
    if h : n.isValidChar then .ok (Char.ofNatAux n h) else .error (.notScalar n)

/-- The text a predefined entity stands for. -/
def predefinedEntity : String → Option String
  | "lt" => some "<"
  | "gt" => some ">"
  | "amp" => some "&"
  | "apos" => some "'"
  | "quot" => some "\""
  | _ => none

/-- The text of the reference named `name`, which starts at byte `first` and ends before `last`. -/
def referenceText (first last : Nat) (name : List Char) : Except EscapeFault (List Char) :=
  match name with
  | '#' :: body => (charOfReference body).map (fun c => [c]) |>.mapError .charRef
  | _ =>
    match predefinedEntity (String.ofList name) with
    | some t => .ok t.toList
    | none => .error (.unknownEntity first last (String.ofList name))

/-- Decode the references in `cs`, which starts at byte `pos` of a text of `total` bytes. When a
reference is open, `pending` holds its start and the characters of its name so far, reversed. -/
def decodeFrom (total : Nat) : Option (Nat × List Char) → Nat → List Char →
    Except EscapeFault (List Char)
  | none, _, [] => .ok []
  | none, pos, '&' :: cs => decodeFrom total (some (pos, [])) (pos + 1) cs
  | none, pos, c :: cs => (c :: ·) <$> decodeFrom total none (pos + c.utf8Size) cs
  | some (start, _), _, [] => .error (.unterminated start total)
  | some (start, name), pos, c :: cs =>
    if c == '&' then .error (.unterminated start total)
    else if c == ';' then
      match referenceText (start + 1) pos name.reverse with
      | .error f => .error f
      | .ok t => (t ++ ·) <$> decodeFrom total none (pos + 1) cs
    else decodeFrom total (some (start, c :: name)) (pos + c.utf8Size) cs

/-- Replace every reference in the text by the text it stands for. -/
def decode (s : String) : Except EscapeFault String :=
  String.ofList <$> decodeFrom (byteLength s.toList) none 0 s.toList

example : decode "a&lt;b&#65;&#x42;" = .ok "a<bAB" := rfl
example : decode "&foo;" = .error (.unknownEntity 1 4 "foo") := rfl
example : decode "& " = .error (.unterminated 0 2) := rfl
example : decode "&#0;" = .error (.charRef (.forbidden 0)) := rfl

end GirAda.Xml
