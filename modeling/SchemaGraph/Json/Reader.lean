import SchemaGraph.Json.Number

/-! Reading JSON text: objects keep all their fields in the order of the text. -/
namespace SchemaGraph.Json

/-- JSON's four blanks. -/
def isBlank (c : Char) : Bool := c = ' ' || c = '\n' || c = '\t' || c = '\r'

def skipBlanks (cs : List Char) : List Char := cs.dropWhile isBlank

def digitValue (c : Char) : Nat := c.toNat - 48

/-- The leading decimal digits and what follows them. -/
def spanDigits (cs : List Char) : List Nat × List Char :=
  ((cs.takeWhile Char.isDigit).map digitValue, cs.dropWhile Char.isDigit)

/-- The number that decimal digits write. -/
def natOfDigits (ds : List Nat) : Nat := ds.foldl (fun n d => n * 10 + d) 0

/-- The integer digits: a zero that stands alone, or digits that start with another. -/
def readWhole (cs : List Char) : Option (List Nat × List Char) :=
  match spanDigits cs with
  | ([], _) => none
  | (0 :: _ :: _, _) => none
  | r => some r

/-- The digits after a point, when there is one. -/
def readFraction : List Char → Option (Option (List Nat) × List Char)
  | '.' :: cs =>
    match spanDigits cs with
    | ([], _) => none
    | (ds, rest) => some (some ds, rest)
  | cs => some (none, cs)

/-- The exponent after `e` or `E`, when there is one. -/
def readExponent : List Char → Option (Option Int × List Char)
  | c :: cs =>
    if c = 'e' ∨ c = 'E' then
      let (negative, cs) :=
        match cs with
        | '-' :: r => (true, r)
        | '+' :: r => (false, r)
        | r => (false, r)
      match spanDigits cs with
      | ([], _) => none
      | (ds, rest) =>
        let n : Int := natOfDigits ds
        some (some (if negative then -n else n), rest)
    else some (none, c :: cs)
  | [] => some (none, [])

/-- A number after its sign. -/
def readMagnitude (negative : Bool) (cs : List Char) : Option (Json × List Char) := do
  let (whole, cs) ← readWhole cs
  let (fraction, cs) ← readFraction cs
  let (exponent, cs) ← readExponent cs
  return (Numeral.value { negative, whole, fraction, exponent }, cs)

def hexValue? (c : Char) : Option Nat :=
  if '0' ≤ c ∧ c ≤ '9' then some (c.toNat - 48)
  else if 'a' ≤ c ∧ c ≤ 'f' then some (c.toNat - 87)
  else if 'A' ≤ c ∧ c ≤ 'F' then some (c.toNat - 55)
  else none

/-- The UTF-16 unit that four hexadecimal digits write. -/
def readUnit : List Char → Option (Nat × List Char)
  | a :: b :: c :: d :: cs => do
    let n := (← hexValue? a) * 4096 + (← hexValue? b) * 256 + (← hexValue? c) * 16 + (← hexValue? d)
    return (n, cs)
  | _ => none

/-- A piece of a string: a character, or a UTF-16 unit from an escape. -/
inductive Piece where
  | char (c : Char)
  | unit (n : Nat)
deriving DecidableEq, Inhabited

/-- The character that a one-letter escape stands for. -/
def escaped? (c : Char) : Option Char :=
  match c with
  | '"' => some '"'
  | '\\' => some '\\'
  | '/' => some '/'
  | 'b' => some '\x08'
  | 'f' => some '\x0c'
  | 'n' => some '\n'
  | 'r' => some '\r'
  | 't' => some '\t'
  | _ => none

/-- The pieces up to the closing quote and what follows it. -/
def readPieces : Nat → List Char → Option (List Piece × List Char)
  | 0, _ | _, [] => none
  | fuel + 1, c :: cs =>
    if c = '"' then some ([], cs)
    else if c = '\\' then
      match cs with
      | 'u' :: r => do
        let (n, r) ← readUnit r
        let (ps, r) ← readPieces fuel r
        return (.unit n :: ps, r)
      | e :: r => do
        let ch ← escaped? e
        let (ps, r) ← readPieces fuel r
        return (.char ch :: ps, r)
      | [] => none
    else if c.toNat < 32 then none
    else do
      let (ps, r) ← readPieces fuel cs
      return (.char c :: ps, r)

def isHighUnit (n : Nat) : Bool := 0xD800 ≤ n && n ≤ 0xDBFF

def isLowUnit (n : Nat) : Bool := 0xDC00 ≤ n && n ≤ 0xDFFF

/-- The characters of the pieces; a high unit and the low unit after it are one character. -/
def joinPieces : List Piece → Option (List Char)
  | [] => some []
  | .char c :: ps => return c :: (← joinPieces ps)
  | .unit h :: .unit l :: ps =>
    if isHighUnit h && isLowUnit l then
      return Char.ofNat (0x10000 + (h - 0xD800) * 0x400 + (l - 0xDC00)) :: (← joinPieces ps)
    else if isHighUnit h || isLowUnit h then none
    else return Char.ofNat h :: (← joinPieces (.unit l :: ps))
  | .unit n :: ps =>
    if isHighUnit n || isLowUnit n then none
    else return Char.ofNat n :: (← joinPieces ps)

/-- A string after its opening quote; no text when a surrogate is unpaired. -/
def readString (cs : List Char) : Option (Option String × List Char) := do
  let (ps, rest) ← readPieces (cs.length + 1) cs
  return ((joinPieces ps).map String.ofList, rest)

/-- What follows a word, when the text starts with it. -/
def readWord : List Char → List Char → Option (List Char)
  | [], cs => some cs
  | w :: ws, c :: cs => if w = c then readWord ws cs else none
  | _ :: _, [] => none

def readLeaf : List Char → Option (Json × List Char)
  | '"' :: cs => do
    let (s, cs) ← readString cs
    return ((s.map Json.str).getD .unreadable, cs)
  | '-' :: cs => readMagnitude true cs
  | 'n' :: cs => return (.null, ← readWord "ull".toList cs)
  | 't' :: cs => return (.bool true, ← readWord "rue".toList cs)
  | 'f' :: cs => return (.bool false, ← readWord "alse".toList cs)
  | cs => readMagnitude false cs

/-- An object of fields; unreadable when one of the keys is. -/
def ofEntries (entries : List (Option String × Json)) : Json :=
  match entries.mapM (fun (k, j) => k.map (·, j)) with
  | some fields => .obj fields
  | none => .unreadable

mutual
/-- The value at the start of the text. -/
def readValue : Nat → List Char → Option (Json × List Char)
  | 0, _ => none
  | fuel + 1, cs =>
    match skipBlanks cs with
    | '[' :: cs =>
      match skipBlanks cs with
      | ']' :: cs => some (.arr [], cs)
      | cs => do
        let (items, cs) ← readItems fuel cs
        return (.arr items, cs)
    | '\x7b' :: cs =>
      match skipBlanks cs with
      | '\x7d' :: cs => some (.obj [], cs)
      | cs => do
        let (entries, cs) ← readEntries fuel cs
        return (ofEntries entries, cs)
    | cs => readLeaf cs

def readItems : Nat → List Char → Option (List Json × List Char)
  | 0, _ => none
  | fuel + 1, cs => do
    let (j, cs) ← readValue fuel cs
    match skipBlanks cs with
    | ']' :: cs => return ([j], cs)
    | ',' :: cs =>
      let (js, cs) ← readItems fuel cs
      return (j :: js, cs)
    | _ => none

def readEntries : Nat → List Char → Option (List (Option String × Json) × List Char)
  | 0, _ => none
  | fuel + 1, cs => do
    let '"' :: cs := skipBlanks cs | none
    let (k, cs) ← readString cs
    let ':' :: cs := skipBlanks cs | none
    let (j, cs) ← readValue fuel cs
    match skipBlanks cs with
    | '\x7d' :: cs => return ([(k, j)], cs)
    | ',' :: cs =>
      let (rest, cs) ← readEntries fuel cs
      return ((k, j) :: rest, cs)
    | _ => none
end

/-- The value that a text writes, with nothing but blanks around it. -/
def parse? (text : String) : Option Json := do
  let cs := text.toList
  let (j, rest) ← readValue (cs.length + 1) cs
  guard (skipBlanks rest).isEmpty
  return j

end SchemaGraph.Json
