import SchemaGraph.Json.Basic
import SchemaGraph.Number.Shortest

/-! The text of JSON numbers. -/
namespace SchemaGraph.Json

/-- A number token: sign, integer digits, fraction digits and exponent. -/
structure Numeral where
  negative : Bool
  whole : List Nat
  fraction : Option (List Nat)
  exponent : Option Int
deriving Inhabited, Repr

/-- The longest run of leading digits whose value stays below `2^64`, started from `significand`,
with the digits that are left. -/
def gatherDigits (significand : Nat) : List Nat → Nat × List Nat
  | [] => (significand, [])
  | d :: ds =>
    if significand * 10 + d < Nat.pow 2 64 then gatherDigits (significand * 10 + d) ds
    else (significand, d :: ds)

/-- Divides by `10^308` until the exponent is in the range of one power of ten. -/
def lowerExponent : Nat → Binary64 → Int → Binary64 × Int
  | 0, x, e => (x, e)
  | n + 1, x, e =>
    if e < -308 ∧ !x.isZero then lowerExponent n (x.div (.ofNat (Nat.pow 10 308))) (e + 308) else (x, e)

/-- A significand scaled by a power of ten: the significand is rounded to binary64 and then
multiplied or divided by the power, which is rounded too. Out of range it has no value. -/
def scaled (significand : Nat) (exponent : Int) : Option Binary64 :=
  let x := Binary64.ofNat significand
  if x.isZero then some x
  else if 308 < exponent then none
  else if 0 ≤ exponent then
    let y := x.mul (.ofNat (Nat.pow 10 exponent.toNat))
    if y.isFinite then some y else none
  else
    let (y, e) := lowerExponent 4 x exponent
    some (if y.isZero then y else y.div (.ofNat (Nat.pow 10 (-e).toNat)))

/-- The value of a number token. Digits past the range of 64 bits only count as powers of ten before
the point, and not at all after it. -/
def Numeral.value (n : Numeral) : Json :=
  let (s, rest) := gatherDigits 0 n.whole
  let sign (x : Binary64) : Json := .float (if n.negative then x.neg else x)
  match n.fraction, n.exponent, rest with
  | none, none, [] =>
    if !n.negative then .int s
    else if s = 0 ∨ Nat.pow 2 63 < s then sign (.ofNat s)
    else .int (-(s : Int))
  | fraction, exponent, rest =>
    let (s', dropped) := gatherDigits s (fraction.getD [])
    let used := (fraction.getD []).length - dropped.length
    match scaled s' (rest.length - used + exponent.getD 0) with
    | some x => sign x
    | none => .unreadable

/-- Where positional notation of floats ends: `10^-5 ≤ |x| < 10^16`. -/
def positionalFrom : Int := -5

def positionalBelow : Int := 16

/-- The text of a positive decimal: positional with a `.0` when whole, else with a signed exponent. -/
def decimalText (d : Shortest.Decimal) : String :=
  let digits := (Nat.toDigits 10 d.digits)
  let lead : Int := d.exponent + digits.length - 1
  if lead < positionalFrom ∨ positionalBelow ≤ lead then
    let fraction := match digits.tail with | [] => "" | ds => "." ++ String.ofList ds
    String.ofList (digits.take 1) ++ fraction ++ "e" ++ (if lead < 0 then "-" else "+") ++
      toString lead.natAbs
  else if lead < 0 then
    "0." ++ String.ofList (List.replicate (-lead - 1).toNat '0' ++ digits)
  else
    let whole := lead.toNat + 1
    if digits.length ≤ whole then
      String.ofList (digits ++ List.replicate (whole - digits.length) '0') ++ ".0"
    else String.ofList (digits.take whole) ++ "." ++ String.ofList (digits.drop whole)

/-- The text of a float: the shortest digits that read back; `null` for what JSON cannot write. -/
def floatText : Binary64 → String
  | .finite s m e =>
    (if s then "-" else "") ++ (if m = 0 then "0.0" else decimalText (Shortest.decimal m e))
  | _ => "null"

end SchemaGraph.Json
