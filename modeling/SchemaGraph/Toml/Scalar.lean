import SchemaGraph.Toml.Text
import SchemaGraph.Json.Basic

/-! Numbers, truth values, and dates and times in TOML. -/
namespace SchemaGraph.Toml

open Reader

/-- Digits with single underscores between them. -/
def digits (isDigit : Char → Bool) : Reader (List Char) := do
  let first ← char isDigit
  let rest ← iterate
    (fun (acc : List Char) => do
      if ← optText "_" then return some ((← char isDigit) :: acc)
      return (← attempt (char isDigit)).map (· :: acc))
    []
  return first :: rest.reverse

/-- The number that digits of a base write. -/
def valueOf (base : Nat) (ds : List Char) : Nat :=
  ds.foldl (fun n c => n * base + (hexDigit? c).getD 0) 0

def sign : Reader Bool := do
  if ← optText "-" then return true
  let _ ← optText "+"
  return false

/-- Decimal digits, of which a zero may only stand alone. -/
def wholeDigits : Reader (List Char) := do
  if ← optText "0" then return ['0']
  digits Char.isDigit

/-- An integer of 64 bits. -/
def bounded (n : Int) : Reader Json :=
  if -Int.pow 2 63 ≤ n ∧ n < Int.pow 2 63 then return .int n else failure

/-- An integer: with a base, or decimal with a sign. -/
def integer : Reader Json := do
  if ← optText "0x" then bounded (valueOf 16 (← digits (fun c => (hexDigit? c).isSome)))
  else if ← optText "0o" then bounded (valueOf 8 (← digits (fun c => '0' ≤ c && c ≤ '7')))
  else if ← optText "0b" then bounded (valueOf 2 (← digits (fun c => c = '0' || c = '1')))
  else
    let negative ← sign
    let n : Int := valueOf 10 (← wholeDigits)
    bounded (if negative then -n else n)

def exponent : Reader Int := do
  let negative ← sign
  let n : Int := valueOf 10 (← digits Char.isDigit)
  return if negative then -n else n

/-- A float with a fraction or an exponent. It may not be too great. -/
def decimalFloat : Reader Json := do
  let negative ← sign
  let whole ← wholeDigits
  let fraction ← if ← optText "." then digits Char.isDigit else pure []
  let hasExponent ← if ← optText "e" then pure true else optText "E"
  guard (hasExponent || !fraction.isEmpty)
  let e ← if hasExponent then exponent else pure 0
  let x := Binary64.ofDecimal negative (valueOf 10 (whole ++ fraction)) (e - fraction.length)
  guard (x ≠ .infinite false)
  return .float x

/-- An infinite float, or one that is no number. -/
def specialFloat : Reader Json := do
  let negative ← sign
  if ← optText "inf" then return .float (.infinite negative)
  text "nan"
  return .float .nan

/-- A number of so many digits in a range. -/
def fixed (count least most : Nat) : Reader Nat := fun cs =>
  let ds := cs.take count
  let n := valueOf 10 ds
  if ds.length = count ∧ ds.all Char.isDigit ∧ least ≤ n ∧ n ≤ most then some (n, cs.drop count)
  else none

/-- The number of days of a month. -/
def daysIn (year month : Nat) : Nat :=
  if month = 2 then
    if year % 4 = 0 ∧ (year % 100 ≠ 0 ∨ year % 400 = 0) then 29 else 28
  else if month = 4 ∨ month = 6 ∨ month = 9 ∨ month = 11 then 30
  else 31

/-- A number in so many digits. -/
def padded (count n : Nat) : List Char :=
  let ds := Nat.toDigits 10 n
  List.replicate (count - ds.length) '0' ++ ds

def date : Reader (List Char) := do
  let year ← fixed 4 0 9999
  text "-"
  let month ← fixed 2 1 12
  text "-"
  let day ← fixed 2 1 (daysIn year month)
  return padded 4 year ++ '-' :: padded 2 month ++ '-' :: padded 2 day

/-- The text of a fraction of a second: nine digits at most, and no zero at the end. -/
def secondFraction : Reader (List Char) := do
  let ds ← takeWhile Char.isDigit
  guard (!ds.isEmpty)
  let kept := ((ds.take 9).reverse.dropWhile (· = '0')).reverse
  return if kept.isEmpty then [] else '.' :: kept

def time : Reader (List Char) := do
  let hour ← fixed 2 0 23
  text ":"
  let minute ← fixed 2 0 59
  text ":"
  let second ← fixed 2 0 60
  let fraction ← if ← optText "." then secondFraction else pure []
  return padded 2 hour ++ ':' :: padded 2 minute ++ ':' :: padded 2 second ++ fraction

/-- The text of an offset from universal time; no offset is negative zero. -/
def offset : Reader (List Char) := do
  if ← optText "Z" then return ['Z']
  if ← optText "z" then return ['Z']
  let negative ← do
    if ← optText "-" then pure true
    else
      text "+"
      pure false
  let hour ← fixed 2 0 23
  text ":"
  let minute ← fixed 2 0 59
  let mark := if negative && hour + minute ≠ 0 then '-' else '+'
  return mark :: padded 2 hour ++ ':' :: padded 2 minute

/-- The field under which a date or a time stands in a value that has no dates. -/
def dateKey : String := "$__toml_private_datetime"

/-- A date, a time, or both. -/
def dateTime : Reader Json := do
  let value (cs : List Char) : Json := .obj [(dateKey, .str (String.ofList cs))]
  match ← attempt date with
  | some d =>
    let timeOfDay : Reader (List Char) := do
      let _ ← char (fun c => c = 'T' || c = 't' || c = ' ')
      let t ← time
      return 'T' :: t ++ ((← attempt offset).getD [])
    return value (d ++ ((← attempt timeOfDay).getD []))
  | none => return value (← time)

/-- A value that is no text, no array and no table. -/
def scalar : Reader Json := do
  if ← optText "true" then return .bool true
  if ← optText "false" then return .bool false
  if let some j ← attempt dateTime then return j
  if let some j ← attempt decimalFloat then return j
  if let some j ← attempt specialFloat then return j
  integer

end SchemaGraph.Toml
