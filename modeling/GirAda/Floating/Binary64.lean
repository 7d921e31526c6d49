/-!
# Binary64 numbers

The double-precision binary floating-point numbers, NaN left out: a sign and either an
infinite magnitude or a finite one, `significand × 2 ^ exponent`. Finite numbers are kept in a
canonical form. A normal number has a significand of 53 bits (from `2 ^ 52` below `2 ^ 53`)
and an exponent from -1074 to 971; a subnormal number, zero among them, has a smaller
significand and the exponent -1074.

Arithmetic is exact rational arithmetic followed by one rounding to the nearest number, ties to
the even significand, as the standard prescribes: `round` takes a quotient of natural numbers
times a power of two, and multiplication and division hand their exact result to it. Every
result of `round` is canonical; a magnitude that rounds to `2 ^ 1024` or beyond is infinite.
-/

namespace GirAda

/-- A binary64 number other than a NaN. -/
inductive Binary64 where
  /-- `± significand × 2 ^ exponent`. -/
  | finite (negative : Bool) (significand : Nat) (exponent : Int)
  /-- `± ∞`. -/
  | infinite (negative : Bool)
  deriving DecidableEq, Repr, Inhabited

namespace Binary64

/-- `2 ^ 52`, the smallest significand of a normal number. -/
def hiddenBit : Nat := 4503599627370496

/-- `2 ^ 53`, the bound of the significands. -/
def significandLimit : Nat := 9007199254740992

/-- The exponent of the subnormal numbers and of the smallest normal ones. -/
def minExponent : Int := -1074

/-- The exponent of the largest finite numbers. -/
def maxExponent : Int := 971

/-- `2 ^ n`. -/
def pow2 (n : Nat) : Nat := Nat.pow 2 n

/-- Whether `num / den ≥ 2 ^ t`. -/
def atLeastPow2 (num den : Nat) (t : Int) : Bool :=
  if 0 ≤ t then den * pow2 t.toNat ≤ num else den ≤ num * pow2 (-t).toNat

/-- `⌊log₂ (num / den)⌋` for positive `num` and `den`. With `a = ⌊log₂ num⌋` and
`b = ⌊log₂ den⌋`, the quotient lies strictly between `2 ^ (a - b - 1)` and `2 ^ (a - b + 1)`,
so the logarithm is `a - b` or one less. -/
def floorLog2 (num den : Nat) : Int :=
  let t : Int := (Nat.log2 num : Int) - (Nat.log2 den : Int)
  if atLeastPow2 num den t then t else t - 1

/-- The quotient `num / den` rounded to the nearest natural number, ties to the even one. -/
def divRoundEven (num den : Nat) : Nat :=
  let q := num / den
  let r := num % den
  if den < 2 * r || (2 * r == den && q % 2 == 1) then q + 1 else q

/-- The number nearest to `± num / den × 2 ^ k`, ties to the even significand; `den` is
positive. The exponent is the one that gives the significand 53 bits, or the subnormal
exponent when that one is smaller; a significand that rounds up to `2 ^ 53` moves on to the
next exponent, where it is `2 ^ 52`. -/
def round (negative : Bool) (num den : Nat) (k : Int) : Binary64 :=
  if num = 0 then .finite negative 0 minExponent
  else
    let top := floorLog2 num den + k - 52
    let e := if top < minExponent then minExponent else top
    let shift := k - e
    let q := if 0 ≤ shift then divRoundEven (num * pow2 shift.toNat) den
      else divRoundEven num (den * pow2 (-shift).toNat)
    let (q, e) := if q = significandLimit then (hiddenBit, e + 1) else (q, e)
    if maxExponent < e then .infinite negative else .finite negative q e

/-- The number nearest to a natural number. -/
def ofNat (n : Nat) : Binary64 := round false n 1 0

/-- `10 ^ k`, rounded. -/
def pow10 (k : Nat) : Binary64 := round false (Nat.pow 10 k) 1 0

/-- The number with the other sign. -/
def neg : Binary64 → Binary64
  | .finite s m e => .finite (!s) m e
  | .infinite s => .infinite (!s)

/-- Whether the number is infinite. -/
def isInfinite : Binary64 → Bool
  | .finite .. => false
  | .infinite _ => true

/-- Whether the number is a zero of either sign. -/
def isZero : Binary64 → Bool
  | .finite _ m _ => m == 0
  | .infinite _ => false

/-- The product, rounded. A product with an infinite factor is infinite. -/
def mul : Binary64 → Binary64 → Binary64
  | .finite s m e, .finite t n f => round (s != t) (m * n) 1 (e + f)
  | .finite s _ _, .infinite t => .infinite (s != t)
  | .infinite s, .finite t _ _ => .infinite (s != t)
  | .infinite s, .infinite t => .infinite (s != t)

/-- The quotient, rounded. A finite number over zero is infinite, as is an infinite dividend;
a finite number over an infinite one is zero. -/
def div : Binary64 → Binary64 → Binary64
  | .finite s m e, .finite t n f =>
    if n = 0 then .infinite (s != t) else round (s != t) m n (e - f)
  | .finite s _ _, .infinite t => .finite (s != t) 0 minExponent
  | .infinite s, .finite t _ _ => .infinite (s != t)
  | .infinite s, .infinite t => .infinite (s != t)

example : ofNat 3 = .finite false 6755399441055744 (-51) := by decide
example : div (ofNat 1) (ofNat 2) = .finite false hiddenBit (-53) := by decide

end Binary64

end GirAda
