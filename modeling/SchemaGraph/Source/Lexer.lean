import SchemaGraph.Source.Numeral

/-! From source text to tokens. -/
namespace SchemaGraph.Source

/-- The characters of punctuation. -/
def punctuation : List Char := "~!@#$%^&*-=+|;:,<.>/?'".toList

/-- Whether punctuation starts here; the start of a comment is none. -/
def startsPunctuation (cs : List Char) : Bool :=
  cs.head?.any punctuation.contains && !startsWith "//" cs && !startsWith "/*" cs

/-- The starts of literals, at which no identifier stands. -/
def literalStarts : List String := ["r\"", "r#\"", "r##", "b\"", "b'", "br\"", "br#", "c\"", "cr\"", "cr#"]

/-- Names that have no raw form. -/
def neverRaw : List String := ["_", "super", "self", "Self", "crate"]

/-- An identifier, raw or not, and the text after it. -/
def readAnyIdent (cs : List Char) : Option (String × List Char) :=
  if startsWith "r#" cs then do
    let (name, rest) ← spanIdent (cs.drop 2)
    guard (!neverRaw.contains (String.ofList name))
    return ("r#" ++ String.ofList name, rest)
  else do
    let (name, rest) ← spanIdent cs
    return (String.ofList name, rest)

/-- An identifier where no literal starts. -/
def readIdent (cs : List Char) : Option (String × List Char) :=
  if literalStarts.any (startsWith · cs) then none else readAnyIdent cs

/-- A literal that is no string, with the suffix that may follow. -/
def unnamed (rest : Option (List Char × List Char)) : Option (Literal × List Char) :=
  rest.map (fun (_, r) => (.other, (spanSuffix r).2))

/-- A literal and the text after it, which is read in at most `fuel` steps. -/
def readLiteral (fuel : Nat) (cs : List Char) : Option (Literal × List Char) :=
  let named (r : Option (List Char × List Char)) : Option (Literal × List Char) :=
    r.map (fun (text, rest) => (.str (String.ofList text), (spanSuffix rest).2))
  let character (k : QuoteKind) (cs : List Char) : Option (Literal × List Char) :=
    (skipCharacter k cs).map (fun rest => (.other, (spanSuffix rest).2))
  match cs with
  | '"' :: r => named (readQuoted .text fuel r)
  | 'r' :: r => named (readRawLiteral .text r)
  | 'b' :: '"' :: r => unnamed (readQuoted .bytes fuel r)
  | 'b' :: 'r' :: r => unnamed (readRawLiteral .bytes r)
  | 'b' :: '\'' :: r => character .bytes r
  | 'c' :: '"' :: r => unnamed (readQuoted .cText fuel r)
  | 'c' :: 'r' :: r => unnamed (readRawLiteral .cText r)
  | '\'' :: r => character .text r
  | cs => readNumber cs

/-- A punctuation character or a lifetime, and the text after it. -/
def readPunctuation (cs : List Char) : Option (Token × List Char) :=
  if !startsPunctuation cs then none
  else
    match cs with
    | '\'' :: r => do
      let (name, rest) ← readAnyIdent r
      guard (rest.head? ≠ some '\'')
      guard (rest.head? ≠ some '#' ∨ startsWith "r#" r)
      match readIdent r with
      | some _ => return (.lifetime name, rest)
      | none => return (.punct '\'' true, r)
    | c :: r => some (.punct c (startsPunctuation r), r)
    | [] => none

/-- A token that is no delimiter, and the text after it. -/
def readLeaf (fuel : Nat) (cs : List Char) : Option (Token × List Char) :=
  match readLiteral fuel cs with
  | some (l, rest) => some (.literal l, rest)
  | none =>
    match readPunctuation cs with
    | some r => some r
    | none => (readIdent cs).map (fun (name, rest) => (.ident name, rest))

/-- The delimiter of a bracket, and whether it opens. -/
def delimiter? : Char → Option (Delimiter × Bool)
  | '(' => some (.paren, true)
  | ')' => some (.paren, false)
  | '[' => some (.bracket, true)
  | ']' => some (.bracket, false)
  | '\x7b' => some (.brace, true)
  | '\x7d' => some (.brace, false)
  | _ => none

/-- The attribute that a documentation comment stands for. -/
def docTokens (text : List Char) (inner : Bool) : List FlatToken :=
  let mark := if inner then [.leaf (.punct '!' false)] else []
  .leaf (.punct '#' false) :: mark ++
    [.opening .bracket, .leaf (.ident "doc"), .leaf (.punct '=' false),
      .leaf (.literal (.str (String.ofList text))), .closing .bracket]

/-- The tokens of a text. Each is read from a text shorter than the `fuel` that is left. -/
def scan : Nat → List Char → Option (List FlatToken)
  | 0, _ => none
  | fuel + 1, cs =>
    match skipBlanks (fuel + 1) cs with
    | [] => some []
    | c :: r =>
      match docComment? (c :: r) with
      | some (text, inner, rest) => do return docTokens text inner ++ (← scan fuel rest)
      | none =>
        match delimiter? c with
        | some (d, opens) => do
          return (if opens then .opening d else .closing d) :: (← scan fuel r)
        | none => do
          let (t, rest) ← readLeaf (fuel + 1) (c :: r)
          return .leaf t :: (← scan fuel rest)

/-- The tokens of a source text; a byte order mark at its start does not count. -/
def tokens? (source : String) : Option (List Token) := do
  let cs := source.toList
  let cs := if cs.head? = some '\uFEFF' then cs.tail else cs
  nestTokens [] [] (← scan (cs.length + 1) cs)

end SchemaGraph.Source
