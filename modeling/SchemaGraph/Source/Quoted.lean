import SchemaGraph.Source.Blank

/-! String and character literals: where they end, and what they stand for. -/
namespace SchemaGraph.Source

/-- Kinds of quoted literals, which differ in the characters and escapes that they allow. -/
inductive QuoteKind where
  | text
  | bytes
  | cText
deriving DecidableEq, Inhabited, Repr

def hexDigit? (c : Char) : Option Nat :=
  if '0' ≤ c ∧ c ≤ '9' then some (c.toNat - 48)
  else if 'a' ≤ c ∧ c ≤ 'f' then some (c.toNat - 87)
  else if 'A' ≤ c ∧ c ≤ 'F' then some (c.toNat - 55)
  else none

/-- The digits of a Unicode escape up to its closing brace, after `count` of them with `value`. -/
def unicodeDigits (value count : Nat) : List Char → Option (Char × List Char)
  | [] => none
  | c :: cs =>
    if c = '_' ∧ 0 < count then unicodeDigits value count cs
    else if c = '\x7d' ∧ 0 < count then
      if h : value.isValidChar then some (Char.ofNatAux value h, cs) else none
    else
      match hexDigit? c with
      | some d => if count = 6 then none else unicodeDigits (value * 16 + d) (count + 1) cs
      | none => none

/-- Whether a two-digit escape of this value is allowed. -/
def QuoteKind.allowsCode (k : QuoteKind) (n : Nat) : Bool :=
  match k with
  | .text => n ≤ 0x7F
  | .bytes => true
  | .cText => n ≠ 0

/-- Whether a character may stand for itself. -/
def QuoteKind.allowsChar (k : QuoteKind) (c : Char) : Bool :=
  match k with
  | .text => true
  | .bytes => c.toNat < 128
  | .cText => c.toNat ≠ 0

/-- What an escape stands for, after its backslash; not the one that ends a line. -/
def readEscape (k : QuoteKind) : List Char → Option (Char × List Char)
  | 'x' :: a :: b :: cs => do
    let n := (← hexDigit? a) * 16 + (← hexDigit? b)
    guard (k.allowsCode n)
    return (Char.ofNat n, cs)
  | 'u' :: '\x7b' :: cs => do
    guard (k ≠ .bytes)
    let (c, rest) ← unicodeDigits 0 0 cs
    guard (k ≠ .cText ∨ c.toNat ≠ 0)
    return (c, rest)
  | 'n' :: cs => some ('\n', cs)
  | 'r' :: cs => some ('\r', cs)
  | 't' :: cs => some ('\t', cs)
  | '\\' :: cs => some ('\\', cs)
  | '\'' :: cs => some ('\'', cs)
  | '"' :: cs => some ('"', cs)
  | '0' :: cs => if k = .cText then none else some ('\x00', cs)
  | _ => none

/-- The text after the blanks that continue a line; a carriage return has to end a line, and the
literal has to go on. -/
def skipContinuation : List Char → Option (List Char)
  | [] => none
  | '\r' :: '\n' :: cs => skipContinuation cs
  | c :: cs =>
    if c = '\r' then none
    else if c = ' ' ∨ c = '\t' ∨ c = '\n' then skipContinuation cs
    else some (c :: cs)

/-- The characters of a quoted literal after its opening quote, and the text after the closing one. -/
def readQuoted (k : QuoteKind) : Nat → List Char → Option (List Char × List Char)
  | 0, _ | _, [] => none
  | fuel + 1, c :: cs =>
    if c = '"' then some ([], cs)
    else if c = '\r' then
      match cs with
      | '\n' :: cs => do
        let (text, rest) ← readQuoted k fuel cs
        return ('\n' :: text, rest)
      | _ => none
    else if c = '\\' then
      if cs.head? = some '\n' ∨ cs.head? = some '\r' then do
        readQuoted k fuel (← skipContinuation cs)
      else do
        let (e, cs) ← readEscape k cs
        let (text, rest) ← readQuoted k fuel cs
        return (e :: text, rest)
    else if k.allowsChar c then do
      let (text, rest) ← readQuoted k fuel cs
      return (c :: text, rest)
    else none

/-- The number of marks before the opening quote of a raw literal, and the text after the quote. -/
def rawOpening : List Char → Option (Nat × List Char)
  | '"' :: cs => some (0, cs)
  | '#' :: cs => do
    let (n, rest) ← rawOpening cs
    return (n + 1, rest)
  | _ => none

/-- The characters of a raw literal up to the quote with its marks, and the text after them. -/
def readRaw (k : QuoteKind) (marks : Nat) : List Char → Option (List Char × List Char)
  | [] => none
  | '\r' :: '\n' :: cs => do
    let (text, rest) ← readRaw k marks cs
    return ('\r' :: '\n' :: text, rest)
  | c :: cs =>
    if c = '"' ∧ (List.replicate marks '#').isPrefixOf cs then some ([], cs.drop marks)
    else if c = '\r' ∨ !k.allowsChar c then none
    else do
      let (text, rest) ← readRaw k marks cs
      return (c :: text, rest)

/-- A raw literal after the letters that announce it. -/
def readRawLiteral (k : QuoteKind) (cs : List Char) : Option (List Char × List Char) := do
  let (marks, cs) ← rawOpening cs
  guard (marks ≤ 255)
  readRaw k marks cs

/-- The text after a character literal, from behind its opening quote. -/
def skipCharacter (k : QuoteKind) : List Char → Option (List Char)
  | '\\' :: cs => do
    let (_, rest) ← readEscape k cs
    skipQuote rest
  | c :: cs => if k = .bytes ∧ 128 ≤ c.toNat then none else skipQuote cs
  | [] => none
where
  /-- The text after a single quote. -/
  skipQuote : List Char → Option (List Char)
    | '\'' :: cs => some cs
    | _ => none

end SchemaGraph.Source
