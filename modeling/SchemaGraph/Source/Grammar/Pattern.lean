import SchemaGraph.Source.Grammar.Type

/-! Patterns. -/
namespace SchemaGraph.Source.Grammar

open Source.Parser

/-- Whether a bar follows that stands between alternatives. -/
def isBar (ts : List Token) : Bool :=
  Ahead.isPunct "|" ts && !Ahead.isPunct "||" ts && !Ahead.isPunct "|=" ts

def alternatives (g : Grammar) : Parser PatternForm := do
  let first ← g.pattern
  let more ← whileAhead isBar (do punct "|"; g.pattern)
  return if more.isEmpty then first else .other

/-- A pattern with alternatives, which may start with a bar. -/
def anyPattern (g : Grammar) : Parser PatternForm := do
  if ← optPunct "|" then
    let _ ← alternatives g
    return .other
  alternatives g

def isCall (ts : List Token) : Bool := Ahead.isPunct "!" ts && !Ahead.isPunct "!=" ts

/-- Whether a path into a module or a type follows. -/
def startsWidePath (ts : List Token) : Bool :=
  Ahead.isIdent ts || Ahead.isOneOf Ahead.pathWords ts || Ahead.isPunct "::" ts ||
    Ahead.isPunct "<" ts

/-- Whether no end of a range follows. -/
def endsRange (ts : List Token) : Bool :=
  ts.isEmpty || Ahead.isPunct "|" ts || Ahead.isPunct "=" ts || isColon ts ||
    Ahead.isPunct "," ts || Ahead.isPunct ";" ts || Ahead.isWord "if" ts

/-- A block that is evaluated early. -/
def constBlock (g : Grammar) : Parser Unit := do
  word "const"
  blockWithAttributes g

/-- An end of a range; whether there is one. -/
def rangeBound (g : Grammar) : Parser Bool := do
  if ← ahead endsRange then return false
  if ← ahead Ahead.isLiteral then
    let _ ← constant
  else if ← ahead startsWidePath then
    let _ ← typedPath g true
  else constBlock g
  return true

/-- A range after its start. -/
def rangeAfter (g : Grammar) : Parser PatternForm := do
  let closed ← if ← optPunct "..=" then pure true else optPunct "..."
  if closed then
    guard (← rangeBound g)
    return .other
  punct ".."
  return if ← rangeBound g then .other else .openRange

def literalPattern (g : Grammar) : Parser PatternForm := do
  guard (← rangeBound g)
  if ← ahead (Ahead.isPunct "..") then rangeAfter g else return .other

/-- A range without a start, or the rest of a sequence. -/
def rangeWithoutStart (g : Grammar) : Parser PatternForm := do
  if ← optPunct "..=" then
    guard (← rangeBound g)
    return .openRange
  punct ".."
  return if ← rangeBound g then .openRange else .other

/-- The name of a field, or its number; whether it is a name. -/
def member : Parser Bool := do
  if ← ahead Ahead.isIdent then
    let _ ← ident
    return true
  match ← literal with
  | .int value "" =>
    guard (value < Nat.pow 2 32)
    return false
  | _ => failure

def fieldPattern (g : Grammar) : Parser Unit := do
  let boxed ← optWord "box"
  let byRef ← optWord "ref"
  let mutable ← optWord "mut"
  let short := boxed || byRef || mutable
  let named ← member
  guard (named || !short)
  if !named || (!short && (← ahead (Ahead.isPunct ":"))) then
    punct ":"
    let _ ← anyPattern g

/-- The fields in the pattern of a struct, the last of which may stand for all others. -/
def fieldPatterns (g : Grammar) : Parser Unit := do
  let _ ← iterate
    (fun (done : Bool) => do
      if done || (← isEnd) then return .none
      let _ ← outerAttributes g
      if ← optPunct ".." then return some true
      fieldPattern g
      unless ← isEnd do punct ","
      return some false)
    false

/-- A pattern that starts with a path. -/
def pathPattern (g : Grammar) : Parser PatternForm := do
  let p ← typedPath g true
  if p.any PathForm.isPlain && (← ahead isCall) then
    punct "!"
    let _ ← anyGroup
    return .other
  if ← ahead (Ahead.isGroup .brace) then
    group .brace (fieldPatterns g)
    return .other
  if ← ahead (Ahead.isGroup .paren) then
    let _ ← group .paren (list (anyPattern g))
    return .other
  if ← ahead (Ahead.isPunct "..") then rangeAfter g else return .other

/-- A name that takes what it stands for, or a part of it. -/
def bindingPattern (g : Grammar) : Parser PatternForm := do
  let _ ← optWord "ref"
  let _ ← optWord "mut"
  if !(← optWord "self") then let _ ← ident
  if ← optPunct "@" then let _ ← g.pattern
  return .other

def slicePattern (g : Grammar) : Parser PatternForm := do
  let _ ← group .bracket (list do
    let p ← anyPattern g
    guard (p ≠ .openRange))
  return .other

/-- Whether a name is followed by what makes it the start of a path pattern. -/
def extendsName (ts : List Token) : Bool :=
  Ahead.isPunct "::" ts || Ahead.isPunct "!" ts || Ahead.isGroup .brace ts ||
    Ahead.isGroup .paren ts || Ahead.isPunct ".." ts

/-- A pattern without alternatives. -/
def patternWith (g : Grammar) : Parser PatternForm := do
  let startsPath (ts : List Token) : Bool :=
    (Ahead.isIdent ts && extendsName (ts.drop 1)) ||
      (Ahead.isWord "self" ts && Ahead.isPunct "::" (ts.drop 1)) ||
      Ahead.isPunct "::" ts || Ahead.isPunct "<" ts || Ahead.isOneOf ["Self", "super", "crate"] ts
  let startsLiteral (ts : List Token) : Bool :=
    Ahead.isPunct "-" ts || Ahead.isLiteral ts || Ahead.isWord "const" ts
  let startsBinding (ts : List Token) : Bool :=
    Ahead.isOneOf ["ref", "mut", "self"] ts || Ahead.isIdent ts
  if ← ahead startsPath then pathPattern g
  else if ← optWord "_" then return .other
  else if ← optWord "box" then
    let _ ← g.pattern
    return .other
  else if ← ahead startsLiteral then literalPattern g
  else if ← ahead startsBinding then bindingPattern g
  else if ← optPunct "&" then
    let _ ← optWord "mut"
    let _ ← g.pattern
    return .other
  else if ← ahead (Ahead.isGroup .paren) then
    let _ ← group .paren (list (anyPattern g))
    return .other
  else if ← ahead (Ahead.isGroup .bracket) then slicePattern g
  else rangeWithoutStart g

end SchemaGraph.Source.Grammar
