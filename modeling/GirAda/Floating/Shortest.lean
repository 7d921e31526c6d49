import GirAda.Floating.Binary64

/-!
# The shortest decimal form of a binary64 number

A finite number is printed with the fewest digits that read back as the same number. Reading
back rounds to the nearest number, so the decimals that do are those in the interval reaching
half-way to the neighbouring numbers; it includes its ends when the significand is even, since
a tie rounds to the even significand. Below a power of two the neighbour beneath is twice as
close, so the interval is narrower on that side.

Among the decimals `d × 10 ^ q` in the interval, those with the largest `q` have the fewest
digits, and of these the one nearest to the number is taken (ties to an even `d`). The text puts
the point among the digits, after them (with `.0`) or before them (with leading zeros) when the
number lies from `10 ^ -5` below `10 ^ 16`; otherwise it is one digit, the others after a point,
and a signed exponent: `1e+16`, `1.5e-7`.
-/

namespace GirAda

namespace Binary64

/-- A decimal `digits × 10 ^ exponent`. -/
structure Decimal where
  digits : Nat
  exponent : Int
  deriving DecidableEq, Repr, Inhabited

/-- The interval of the reals that round to a positive number `m × 2 ^ e`, scaled by
`2 ^ (2 - e)`: the number itself is `4m`, and the ends `low` and `high` are `4m - 2` (or
`4m - 1` just above a power of two) and `4m + 2`; `inclusive` tells whether the ends belong to
it. -/
structure Interval where
  value : Nat
  low : Nat
  high : Nat
  inclusive : Bool
  scale : Int
  deriving DecidableEq, Repr

/-- The interval around a positive finite number `m × 2 ^ e`. -/
def Interval.around (m : Nat) (e : Int) : Interval :=
  let closeBelow := m == hiddenBit && minExponent < e
  ⟨4 * m, if closeBelow then 4 * m - 1 else 4 * m - 2, 4 * m + 2, m % 2 == 0, e - 2⟩

namespace Interval

/-- The factors `(a, b)` with `a / b = 10 ^ q / 2 ^ scale`: a decimal `d × 10 ^ q` is the scaled
value `d × a / b`. -/
def factors (x : Interval) (q : Int) : Nat × Nat :=
  (Nat.pow 10 q.toNat * pow2 (-x.scale).toNat, Nat.pow 10 (-q).toNat * pow2 x.scale.toNat)

/-- The smallest `d` with `d × 10 ^ q` in the interval. -/
def least (x : Interval) (q : Int) : Nat :=
  let (a, b) := x.factors q
  if x.inclusive then (x.low * b + a - 1) / a else x.low * b / a + 1

/-- The largest `d` with `d × 10 ^ q` in the interval. -/
def greatest (x : Interval) (q : Int) : Nat :=
  let (a, b) := x.factors q
  if x.inclusive then x.high * b / a else (x.high * b - 1) / a

/-- The `d` with `d × 10 ^ q` nearest to the number, ties to the even one. -/
def nearest (x : Interval) (q : Int) : Nat :=
  let (a, b) := x.factors q
  divRoundEven (x.value * b) a

/-- The `d` nearest to the number among those with `d × 10 ^ q` in the interval, if any: the
nearest of all, or the end of the range of them on its side. -/
def candidate (x : Interval) (q : Int) : Option Nat :=
  let lo := x.least q
  let hi := x.greatest q
  if hi < lo then none
  else
    let d := x.nearest q
    some (if d < lo then lo else if hi < d then hi else d)

/-- The decimal with the largest `q`, from `q` down, trying at most `fuel` exponents. -/
def search (x : Interval) : Nat → Int → Decimal
  | 0, q => ⟨x.nearest q, q⟩
  | fuel + 1, q =>
    match x.candidate q with
    | some d => ⟨d, q⟩
    | none => search x fuel (q - 1)

/-- An exponent at least the decimal logarithm of every point of the interval: the points lie
below `2 ^ (scale + 55)`, and `30103 / 100000` and `30102 / 100000` bound `log₁₀ 2` from above
and from below. -/
def topExponent (x : Interval) : Int :=
  let bits := x.scale + 55
  if 0 ≤ bits then bits * 30103 / 100000 + 1 else -((-bits) * 30102 / 100000) + 1

end Interval

/-- The shortest decimal of a positive finite number `m × 2 ^ e`. Seventeen digits always
suffice, and the search starts less than twenty exponents above that, so sixty-four tries are
plenty. -/
def shortest (m : Nat) (e : Int) : Decimal :=
  let x := Interval.around m e
  x.search 64 x.topExponent

/-- The signed exponent of the text: `+` or `-`, then its digits. -/
def exponentText (k : Int) : String :=
  if k < 0 then "-" ++ toString (-k) else "+" ++ toString k

/-- The text of a decimal `d × 10 ^ q` from the digits of `d`. -/
def decimalText (ds : List Char) (q : Int) : String :=
  let point : Int := ds.length + q
  if 0 ≤ q ∧ point ≤ 16 then
    String.ofList (ds ++ List.replicate q.toNat '0') ++ ".0"
  else if 0 < point ∧ point ≤ 16 then
    String.ofList (ds.take point.toNat) ++ "." ++ String.ofList (ds.drop point.toNat)
  else if -5 < point ∧ point ≤ 0 then
    "0." ++ String.ofList (List.replicate (-point).toNat '0' ++ ds)
  else
    match ds with
    | [d] => String.ofList [d] ++ "e" ++ exponentText (point - 1)
    | d :: rest => String.ofList [d] ++ "." ++ String.ofList rest ++ "e" ++ exponentText (point - 1)
    | [] => "0e" ++ exponentText (point - 1)

/-- The text of a number: its shortest decimal, `0.0` for zero, `inf` for an infinity, each
with a minus sign when negative. -/
def text : Binary64 → String
  | .finite neg m e =>
    (if neg then "-" else "") ++
      if m = 0 then "0.0"
      else
        let d := shortest m e
        decimalText (Nat.toDigits 10 d.digits) d.exponent
  | .infinite neg => if neg then "-inf" else "inf"

example : decimalText ['1', '5'] (-1) = "1.5" := by decide
example : decimalText ['3'] 0 = "3.0" := by decide
example : decimalText ['1', '5'] (-8) = "1.5e-7" := by decide
example : decimalText ['1'] 16 = "1e+16" := by decide

end Binary64

end GirAda
