/-! White space and comments between tokens. -/
namespace SchemaGraph.Source

/-- White space, with the marks that set the direction of text. -/
def isBlank (c : Char) : Bool :=
  let n := c.toNat
  c = ' ' || (9 ≤ n && n ≤ 13) || n = 0x85 || n = 0xA0 || n = 0x1680 || (0x2000 ≤ n && n ≤ 0x200A) ||
    n = 0x200E || n = 0x200F || n = 0x2028 || n = 0x2029 || n = 0x202F || n = 0x205F || n = 0x3000

/-- Whether a text starts with these characters. -/
def startsWith (start : String) (cs : List Char) : Bool := start.toList.isPrefixOf cs

/-- The characters up to the end of the line, and the text from there. -/
def spanLine : List Char → List Char × List Char
  | [] => ([], [])
  | '\n' :: cs => ([], '\n' :: cs)
  | '\r' :: '\n' :: cs => ([], '\n' :: cs)
  | c :: cs => let (line, rest) := spanLine cs; (c :: line, rest)

/-- What stands in a comment before the end that closes it, and the text after it; `depth` comments
are open inside it. -/
def spanComment (depth : Nat) : List Char → Option (List Char × List Char)
  | '/' :: '*' :: cs => do
    let (inner, rest) ← spanComment (depth + 1) cs
    return ('/' :: '*' :: inner, rest)
  | '*' :: '/' :: cs =>
    match depth with
    | 0 => some ([], cs)
    | depth + 1 => do
      let (inner, rest) ← spanComment depth cs
      return ('*' :: '/' :: inner, rest)
  | c :: cs => do
    let (inner, rest) ← spanComment depth cs
    return (c :: inner, rest)
  | [] => none

/-- Whether a line comment starts here that documents nothing. -/
def startsLineComment (cs : List Char) : Bool :=
  startsWith "//" cs && (!startsWith "///" cs || startsWith "////" cs) && !startsWith "//!" cs

/-- Whether a block comment starts here that documents nothing. -/
def startsBlockComment (cs : List Char) : Bool :=
  startsWith "/**/" cs ||
    (startsWith "/*" cs && (!startsWith "/**" cs || startsWith "/***" cs) && !startsWith "/*!" cs)

/-- The text after blanks and comments. A comment that is not closed stays. -/
def skipBlanks : Nat → List Char → List Char
  | 0, cs => cs
  | _, [] => []
  | fuel + 1, c :: cs =>
    if isBlank c then skipBlanks fuel cs
    else if startsLineComment (c :: cs) then skipBlanks fuel (spanLine (c :: cs)).2
    else if startsBlockComment (c :: cs) then
      match spanComment 0 (cs.drop 1) with
      | some (_, rest) => skipBlanks fuel rest
      | none => c :: cs
    else c :: cs

/-- The text of a documentation comment that starts here, whether it documents what is around it, and
the text after it. A carriage return may only end a line. -/
def docComment? (cs : List Char) : Option (List Char × Bool × List Char) := do
  let (text, inner, rest) ←
    if startsWith "//!" cs then
      let (line, rest) := spanLine (cs.drop 3)
      some (line, true, rest)
    else if startsWith "/*!" cs then do
      let (text, rest) ← spanComment 0 (cs.drop 3)
      pure (text, true, rest)
    else if startsWith "///" cs && !startsWith "////" cs then
      let (line, rest) := spanLine (cs.drop 3)
      some (line, false, rest)
    else if startsWith "/**" cs && !startsWith "/***" cs then do
      let (text, rest) ← spanComment 0 (cs.drop 3)
      pure (text, false, rest)
    else none
  guard (bareReturns text = false)
  return (text, inner, rest)
where
  /-- Whether a carriage return stands before anything but a line feed. -/
  bareReturns : List Char → Bool
    | [] => false
    | '\r' :: '\n' :: cs => bareReturns cs
    | c :: cs => c = '\r' || bareReturns cs

end SchemaGraph.Source
