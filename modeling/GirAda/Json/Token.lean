import GirAda.Json.Cursor

/-!
# Reading JSON text: strings, numbers and words

Strings with their escapes (a pair of `\u` escapes for a character beyond the first plane),
numbers and the literal words; a skipped string or number is only checked. Loops run on fuel,
the number of characters left, since every round reads at least one character.

A number with neither point nor exponent that fits in 64 bits is whole. Any other number is
read as binary64 arithmetic would compute it, which is not always the nearest binary64 number:
its leading digits, as many as fit below `2 ^ 64`, make a significand that is rounded, the
digits dropped and the point and exponent make a power of ten, and the rounded significand is
multiplied or divided by the rounded power, each step rounded again.
-/

namespace GirAda.Json

namespace Reader

/-- The value of a hexadecimal digit. -/
def hexValue (c : Char) : Option Nat :=
  if '0' ≤ c ∧ c ≤ '9' then some (c.toNat - '0'.toNat)
  else if 'a' ≤ c ∧ c ≤ 'f' then some (c.toNat - 'a'.toNat + 10)
  else if 'A' ≤ c ∧ c ≤ 'F' then some (c.toNat - 'A'.toNat + 10)
  else none

/-- The four hexadecimal digits of a `\u` escape. -/
def hexEscape : Reader Nat := do
  let c ← get
  if (c.rest.take 4).foldl (fun n ch => n + ch.utf8Size) 0 < 4 then
    set (c.skip c.rest.length)
    failHere .eofWhileParsingString
  else
    set (c.skipBytes 4)
    match (c.rest.take 4).mapM hexValue with
    | some [a, b, d, e] => return ((a * 16 + b) * 16 + d) * 16 + e
    | _ => failHere .invalidEscape

/-- A `\u` escape of a string, a pair of them for a character beyond the first plane. -/
def unicodeEscape : Reader Char := do
  let n ← hexEscape
  if 0xDC00 ≤ n ∧ n ≤ 0xDFFF then failHere .loneLeadingSurrogate
  else if n < 0xD800 ∨ 0xDBFF < n then return Char.ofNat n
  else
    match ← next with
    | none => failHere .eofWhileParsingString
    | some '\\' => pure ()
    | some _ => failHere .unexpectedEndOfHexEscape
    match ← next with
    | none => failHere .eofWhileParsingString
    | some 'u' => pure ()
    | some _ => failHere .unexpectedEndOfHexEscape
    let low ← hexEscape
    if low < 0xDC00 ∨ 0xDFFF < low then failHere .loneLeadingSurrogate
    else return Char.ofNat ((n - 0xD800) * 0x400 + (low - 0xDC00) + 0x10000)

/-- The character an escape stands for, after its backslash. -/
def escape : Reader Char := do
  match ← next with
  | none => failHere .eofWhileParsingString
  | some '"' => pure '"'
  | some '\\' => pure '\\'
  | some '/' => pure '/'
  | some 'b' => pure '\x08'
  | some 'f' => pure '\x0c'
  | some 'n' => pure '\n'
  | some 'r' => pure '\r'
  | some 't' => pure '\t'
  | some 'u' => unicodeEscape
  | some _ => failHere .invalidEscape

/-- Whether a character stands for itself in a string. -/
def isPlain (c : Char) : Bool := c != '"' && c != '\\' && 0x20 ≤ c.toNat

/-- The rest of a string after its opening quote, read with `fuel` rounds. -/
def stringBody : Nat → List Char → Reader String
  | 0, _ => failHere .eofWhileParsingString
  | fuel + 1, acc => do
    let c ← get
    let plain := c.rest.takeWhile isPlain
    set (c.skip plain.length)
    match ← peek with
    | none => failHere .eofWhileParsingString
    | some '"' => eat; return String.ofList (acc ++ plain)
    | some '\\' => eat; let ch ← escape; stringBody fuel (acc ++ plain ++ [ch])
    | some _ => eat; failHere .controlCharacter

/-- A string, after its opening quote. -/
def string : Reader String := do stringBody ((← get).rest.length + 1) []

/-- Check an escape of a string that is skipped. -/
def skipEscape : Reader Unit := do
  match ← next with
  | none => failHere .eofWhileParsingString
  | some '"' | some '\\' | some '/' | some 'b' | some 'f' | some 'n' | some 'r' | some 't' => pure ()
  | some 'u' => discard hexEscape
  | some _ => failHere .invalidEscape

/-- Skip the rest of a string after its opening quote, with `fuel` rounds. -/
def skipStringBody : Nat → Reader Unit
  | 0 => failHere .eofWhileParsingString
  | fuel + 1 => do
    let c ← get
    set (c.skip (c.rest.takeWhile isPlain).length)
    match ← peek with
    | none => failHere .eofWhileParsingString
    | some '"' => eat
    | some '\\' => eat; skipEscape; skipStringBody fuel
    | some _ => failHere .controlCharacter

/-- Skip a string, after its opening quote. -/
def skipString : Reader Unit := do skipStringBody ((← get).rest.length + 1)

/-- Whether a character is a decimal digit. -/
def isDigit (c : Char) : Bool := '0' ≤ c ∧ c ≤ '9'

/-- Read a run of digits. -/
def digits : Reader (List Char) := do
  let c ← get
  let ds := c.rest.takeWhile isDigit
  set (c.skip ds.length)
  return ds

/-- The largest unsigned 64-bit number, `2 ^ 64 - 1`: digits are gathered into the significand
while it stays within this bound. -/
def maxSignificand : Nat := 18446744073709551615

/-- The largest signed 32-bit number, `2 ^ 31 - 1`, the bound of a written exponent. -/
def maxExponent : Nat := 2147483647

/-- A sum of 32-bit exponents, held at the ends of their range instead of passing them. -/
def saturate (n : Int) : Int :=
  if n < -2147483648 then -2147483648 else if 2147483647 < n then 2147483647 else n

/-- `f × 10 ^ exponent` in binary64 arithmetic: one product or quotient by the rounded power of
ten when it is at most `10 ^ 308`; beyond that a nonzero number with a positive exponent is out
of range (`none`), and a negative exponent is brought nearer by dividing by `10 ^ 308`. A product
that is infinite is out of range. Since `f` is below `2 ^ 64`, two such divisions reach zero, so
the fuel of `fromParts` suffices. -/
def scaled (f : Binary64) (exponent : Int) : Nat → Option Binary64
  | 0 => some f
  | fuel + 1 =>
    let k := exponent.natAbs
    if k ≤ 308 then
      if 0 ≤ exponent then
        let g := f.mul (Binary64.pow10 k)
        if g.isInfinite then none else some g
      else some (f.div (Binary64.pow10 k))
    else if f.isZero then some f
    else if 0 ≤ exponent then none
    else scaled (f.div (Binary64.pow10 308)) (exponent + 308) fuel

/-- The number `± significand × 10 ^ exponent` as binary64 arithmetic computes it: the
significand rounded, then scaled by `scaled`. -/
def fromParts (negative : Bool) (significand : Nat) (exponent : Int) : Reader Number :=
  match scaled (Binary64.ofNat significand) exponent 4 with
  | some f => pure (.float (if negative then f.neg else f))
  | none => failHere .numberOutOfRange

/-- An exponent that passed `2 ^ 31 - 1`: out of range for a nonzero number and a positive
exponent; otherwise its other digits are skipped and the number is a zero. -/
def exponentOverflow (negative zero positive : Bool) : Reader Number := do
  if !zero && positive then failHere .numberOutOfRange
  else
    discard digits
    return .float (.finite negative 0 Binary64.minExponent)

/-- The number once its exponent is read: `value`, added to `start` or taken from it by its
sign. -/
def withExponent (negative positive : Bool) (significand : Nat) (start : Int) (value : Nat) :
    Reader Number :=
  fromParts negative significand (saturate (if positive then start + value else start - value))

/-- The digits of an exponent after its first, with `fuel` rounds: `value` is the exponent so
far. -/
def exponentDigits (negative positive : Bool) (significand : Nat) (start : Int) :
    Nat → Nat → Reader Number
  | 0, value => withExponent negative positive significand start value
  | fuel + 1, value => do
    match ← peek with
    | some c =>
      if isDigit c then
        eat
        let v := value * 10 + (c.toNat - '0'.toNat)
        if maxExponent < v then exponentOverflow negative (significand == 0) positive
        else exponentDigits negative positive significand start fuel v
      else withExponent negative positive significand start value
    | none => withExponent negative positive significand start value

/-- The exponent of a number, at its `e`; the number so far is `significand × 10 ^ start`. -/
def exponent (negative : Bool) (significand : Nat) (start : Int) : Reader Number := do
  eat
  let positive ← match ← peek with
    | some '+' => eat; pure true
    | some '-' => eat; pure false
    | _ => pure true
  match ← next with
  | none => failHere .eofWhileParsingValue
  | some d =>
    if isDigit d then
      exponentDigits negative positive significand start ((← get).rest.length + 1) (d.toNat - '0'.toNat)
    else failHere .invalidNumber

/-- Digits after the point that no longer fit in the significand: they are skipped. -/
def fractionOverflow (negative : Bool) (significand : Nat) (exp : Int) : Reader Number := do
  discard digits
  match ← peek with
  | some 'e' | some 'E' => exponent negative significand exp
  | _ => fromParts negative significand exp

/-- The end of the digits after the point, `after` of them taken: there must be one. -/
def fractionEnd (negative : Bool) (significand : Nat) (before : Int) (after : Nat) :
    Reader Number := do
  if after = 0 then
    match ← peek with
    | some _ => failPeek .invalidNumber
    | none => failPeek .eofWhileParsingValue
  else
    match ← peek with
    | some 'e' | some 'E' => exponent negative significand (before - after)
    | _ => fromParts negative significand (before - after)

/-- The digits after the point, with `fuel` rounds: `significand` so far, `after` digits taken,
and `before` the exponent brought from the whole part. -/
def fractionDigits (negative : Bool) (before : Int) : Nat → Nat → Nat → Reader Number
  | 0, significand, after => fractionEnd negative significand before after
  | fuel + 1, significand, after => do
    match ← peek with
    | some c =>
      if isDigit c then
        let v := significand * 10 + (c.toNat - '0'.toNat)
        if maxSignificand < v then fractionOverflow negative significand (before - after)
        else
          eat
          fractionDigits negative before fuel v (after + 1)
      else fractionEnd negative significand before after
    | none => fractionEnd negative significand before after

/-- The part of a number after its point, at the point. -/
def fraction (negative : Bool) (significand : Nat) (before : Int) : Reader Number := do
  eat
  fractionDigits negative before ((← get).rest.length + 1) significand 0

/-- The rest of a whole part that no longer fits in the significand: each digit counts as a
power of ten. -/
def longInteger (negative : Bool) (significand : Nat) : Reader Number := do
  let ds ← digits
  let k : Int := ds.length
  match ← peek with
  | some '.' => fraction negative significand k
  | some 'e' | some 'E' => exponent negative significand k
  | _ => fromParts negative significand k

/-- What follows a whole part that fits in 64 bits. A whole number stays whole, down to `-2 ^ 63`
(`-9223372036854775808`) when negative; `-0` and whole numbers below `-2 ^ 63` are binary64
numbers. -/
def numberEnd (negative : Bool) (significand : Nat) : Reader Number := do
  match ← peek with
  | some '.' => fraction negative significand 0
  | some 'e' | some 'E' => exponent negative significand 0
  | _ =>
    if !negative then return .natural significand
    else if significand = 0 then return .float (.finite true 0 Binary64.minExponent)
    else if significand ≤ 9223372036854775808 then return .negative (-(significand : Int))
    else return .float (Binary64.ofNat significand).neg

/-- The digits of a whole part after its first, with `fuel` rounds. -/
def integerDigits (negative : Bool) : Nat → Nat → Reader Number
  | 0, significand => numberEnd negative significand
  | fuel + 1, significand => do
    match ← peek with
    | some c =>
      if isDigit c then
        let v := significand * 10 + (c.toNat - '0'.toNat)
        if maxSignificand < v then longInteger negative significand
        else
          eat
          integerDigits negative fuel v
      else numberEnd negative significand
    | none => numberEnd negative significand

/-- A number, its sign already read. -/
def number (negative : Bool) : Reader Number := do
  match ← next with
  | none => failHere .eofWhileParsingValue
  | some '0' =>
    match ← peek with
    | some d => if isDigit d then failPeek .invalidNumber else numberEnd negative 0
    | none => numberEnd negative 0
  | some d =>
    if isDigit d then integerDigits negative ((← get).rest.length + 1) (d.toNat - '0'.toNat)
    else failHere .invalidNumber

/-- Check the exponent of a number that is skipped, after its `e`. -/
def skipExponent : Reader Unit := do
  eat
  match ← peek with
  | some '+' | some '-' => eat
  | _ => pure ()
  match ← next with
  | some d => if isDigit d then discard digits else failHere .invalidNumber
  | none => failHere .invalidNumber

/-- Check a number that is skipped, its sign already read. -/
def skipNumber : Reader Unit := do
  match ← next with
  | some '0' =>
    match ← peek with
    | some d => if isDigit d then failPeek .invalidNumber
    | none => pure ()
  | some d => if isDigit d then discard digits else failHere .invalidNumber
  | none => failHere .invalidNumber
  match ← peek with
  | some '.' =>
    eat
    let ds ← digits
    if ds.isEmpty then failPeek .invalidNumber
    else
      match ← peek with
      | some 'e' | some 'E' => skipExponent
      | _ => pure ()
  | some 'e' | some 'E' => skipExponent
  | _ => pure ()

end Reader

end GirAda.Json
