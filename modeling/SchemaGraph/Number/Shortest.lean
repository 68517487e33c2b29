import SchemaGraph.Number.Binary64

/-! The fewest decimal digits that read back as a given binary64 number, and of those the nearest. -/
namespace SchemaGraph.Shortest

/-- A positive decimal `digits * 10^exponent`. -/
structure Decimal where
  digits : Nat
  exponent : Int
deriving DecidableEq, Inhabited, Repr

/-- The reals that round to a number: its lower end, the number and its upper end, all over
`denominator`; the ends belong to it when `closed`. -/
structure Interval where
  low : Nat
  value : Nat
  high : Nat
  denominator : Nat
  closed : Bool

/-- The rounding interval of `mantissa * 2^exponent`; below a power of two the gap is half as wide. -/
def Interval.of (mantissa : Nat) (exponent : Int) : Interval :=
  let gap := if mantissa = Nat.pow 2 52 ∧ Binary64.minExponent < exponent then 1 else 2
  let scale := Binary64.shiftQuotient 1 4 (-exponent)
  { low := (4 * mantissa - gap) * scale.1
    value := 4 * mantissa * scale.1
    high := (4 * mantissa + 2) * scale.1
    denominator := scale.2
    closed := mantissa % 2 = 0 }

/-- A decimal and a quotient brought to one denominator. -/
def Decimal.against (d : Decimal) (num den : Nat) : Nat × Nat :=
  if 0 ≤ d.exponent then (d.digits * Nat.pow 10 d.exponent.toNat * den, num)
  else (d.digits * den, num * Nat.pow 10 (-d.exponent).toNat)

/-- Whether a decimal lies in the interval. -/
def Interval.contains (i : Interval) (d : Decimal) : Bool :=
  let (a, low) := d.against i.low i.denominator
  let (b, high) := d.against i.high i.denominator
  if i.closed then low ≤ a && b ≤ high else low < a && b < high

/-- The distance of a decimal from the number, over a denominator that depends on its grid only. -/
def Interval.distance (i : Interval) (d : Decimal) : Nat :=
  let (a, v) := d.against i.value i.denominator
  if a ≤ v then v - a else a - v

/-- The exponent of the first decimal digit of `num / den`. -/
def leadingExponent (num den : Nat) : Int :=
  (Nat.toDigits 10 (num * Nat.pow 10 400 / den)).length - 401

/-- The number's neighbours on the grid `10^exponent`. -/
def Interval.neighbours (i : Interval) (exponent : Int) : Decimal × Decimal :=
  let (n, d) :=
    if 0 ≤ exponent then (i.value, i.denominator * Nat.pow 10 exponent.toNat)
    else (i.value * Nat.pow 10 (-exponent).toNat, i.denominator)
  ({ digits := n / d, exponent }, { digits := n / d + 1, exponent })

/-- The nearer of the neighbours on a grid that lie in the interval; a tie takes the even one. -/
def Interval.pick (i : Interval) (exponent : Int) : Option Decimal :=
  let (below, above) := i.neighbours exponent
  match i.contains below, i.contains above with
  | true, true =>
    let b := i.distance below
    let a := i.distance above
    some (if b < a ∨ (b = a ∧ below.digits % 2 = 0) then below else above)
  | true, false => some below
  | false, true => some above
  | false, false => none

/-- The pick of the first of `count` grids that has one, from coarse to fine. -/
def Interval.search (i : Interval) (exponent : Int) : Nat → Decimal
  | 0 => (i.neighbours exponent).1
  | count + 1 => (i.pick exponent).getD (i.search (exponent - 1) count)

/-- The shortest decimal of `mantissa * 2^exponent`, for a positive mantissa. The first grid is the one
above the leading digit, since the next power of ten may lie in the interval. -/
def decimal (mantissa : Nat) (exponent : Int) : Decimal :=
  let i := Interval.of mantissa exponent
  i.search (leadingExponent i.value i.denominator + 1) 18

end SchemaGraph.Shortest
