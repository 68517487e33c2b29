import SchemaGraph.Source.Token
import SchemaGraph.Source.Quoted
import SchemaGraph.Text.Identifier

/-! Number literals: where they end, and what they stand for. -/
namespace SchemaGraph.Source

/-- Whether a character may start an identifier. -/
def isIdentStart (c : Char) : Bool :=
  if c.toNat < 128 then c.isAlpha || c = '_' else CharSet.identifierStart.contains c

/-- Whether a character may go on an identifier. -/
def isIdentContinue (c : Char) : Bool :=
  if c.toNat < 128 then c.isAlphanum || c = '_' else CharSet.identifierContinue.contains c

/-- An identifier without a raw mark, and the text after it. -/
def spanIdent : List Char → Option (List Char × List Char)
  | [] => none
  | c :: cs =>
    if isIdentStart c then some (c :: cs.takeWhile isIdentContinue, cs.dropWhile isIdentContinue)
    else none

/-- A suffix, which may be empty, and the text after it. -/
def spanSuffix (cs : List Char) : List Char × List Char := (spanIdent cs).getD ([], cs)

/-- Decimal digits and separators. -/
def isDigitOrSeparator (c : Char) : Bool := c.isDigit || c = '_'

/-- The sign, digits and separators of an exponent, and the text after them, when a digit is among
them. -/
def spanExponent (cs : List Char) : Option (List Char × List Char) :=
  let before := cs.takeWhile (· = '_')
  let cs := cs.dropWhile (· = '_')
  let (sign, cs) :=
    match cs with
    | '+' :: r => (['+'], r)
    | '-' :: r => (['-'], r)
    | r => ([], r)
  let digits := cs.takeWhile isDigitOrSeparator
  if digits.any Char.isDigit then
    some (before ++ sign ++ digits, cs.dropWhile isDigitOrSeparator)
  else none

/-- The characters of a float that starts with a digit, without its suffix, and the text after them. -/
def spanFloat (cs : List Char) : Option (List Char × List Char) :=
  let whole := cs.takeWhile isDigitOrSeparator
  if !(cs.head?.any Char.isDigit) then none
  else
    match cs.dropWhile isDigitOrSeparator with
    | '.' :: r =>
      if r.head?.any (fun c => c = '.' || isIdentStart c) then none
      else
        let mantissa := whole ++ '.' :: r.takeWhile isDigitOrSeparator
        let rest := r.dropWhile isDigitOrSeparator
        match rest with
        | c :: r' =>
          if c = 'e' ∨ c = 'E' then
            match spanExponent r' with
            | some (e, rest') => some (mantissa ++ c :: e, rest')
            | none => some (mantissa, rest)
          else some (mantissa, rest)
        | [] => some (mantissa, rest)
    | c :: r =>
      if c = 'e' ∨ c = 'E' then (spanExponent r).map (fun (e, rest) => (whole ++ c :: e, rest))
      else none
    | [] => none

/-- The digits of an integer of a base and the text after them; a decimal digit past the base spoils
the literal, and a letter past it starts the suffix. -/
def spanBaseDigits (base : Nat) : List Char → Option (List Char × List Char)
  | [] => some ([], [])
  | c :: cs =>
    if c = '_' then (spanBaseDigits base cs).map (fun (ds, r) => (c :: ds, r))
    else
      match hexDigit? c with
      | none => some ([], c :: cs)
      | some d =>
        if d < base then (spanBaseDigits base cs).map (fun (ds, r) => (c :: ds, r))
        else if c.isDigit then none
        else some ([], c :: cs)

/-- The base that a literal announces, and the text after the announcement. -/
def spanBase : List Char → Nat × List Char
  | '0' :: 'x' :: cs => (16, cs)
  | '0' :: 'o' :: cs => (8, cs)
  | '0' :: 'b' :: cs => (2, cs)
  | cs => (10, cs)

/-- The number that digits of a base write; separators do not count. -/
def valueOf (base : Nat) (ds : List Char) : Nat :=
  ds.foldl (fun n c => match hexDigit? c with | some d => n * base + d | none => n) 0

/-- An integer without its suffix, with its value, and the text after it. -/
def spanInt (cs : List Char) : Option (Nat × List Char) := do
  let (base, digits) := spanBase cs
  guard (base ≠ 10 ∨ digits.head? ≠ some '_')
  let (ds, rest) ← spanBaseDigits base digits
  guard (ds.any (· ≠ '_'))
  return (valueOf base ds, rest)

/-- The value of the characters of a float. -/
def floatValue (text : List Char) : Binary64 :=
  let cs := text.filter (· ≠ '_')
  let whole := cs.takeWhile Char.isDigit
  let rest := cs.dropWhile Char.isDigit
  let (fraction, rest) :=
    match rest with
    | '.' :: r => (r.takeWhile Char.isDigit, r.dropWhile Char.isDigit)
    | r => ([], r)
  let exponent : Int :=
    match rest.drop 1 with
    | '-' :: r => -(valueOf 10 r : Int)
    | '+' :: r => valueOf 10 r
    | r => valueOf 10 r
  .ofDecimal false (valueOf 10 (whole ++ fraction)) (exponent - fraction.length)

/-- A number literal and the text after it. -/
def readNumber (cs : List Char) : Option (Literal × List Char) := do
  let (literal, rest) ←
    match spanFloat cs with
    | some (text, rest) =>
      let (suffix, rest) := spanSuffix rest
      some (Literal.float (floatValue text) (text ++ suffix), rest)
    | none => do
      let (value, rest) ← spanInt cs
      let (suffix, rest) := spanSuffix rest
      some (Literal.int value (String.ofList suffix), rest)
  guard (!rest.head?.any isIdentContinue)
  return (literal, rest)

end SchemaGraph.Source
