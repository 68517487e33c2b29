import SchemaGraph.Source.Numeral
import SchemaGraph.Source.Grammar.Control

/-! Operands: what stands between operators. -/
namespace SchemaGraph.Source.Grammar

open Source.Parser

/-- The whole text of a float as numbers of fields, and whether a dot ends it. -/
def fieldNumbers? (text : List Char) : Option Bool := do
  let trailing := text.getLast? = some '.'
  let parts := (if trailing then text.dropLast else text).splitOn '.'
  for part in parts do
    let (value, rest) ← spanInt part
    guard (rest.isEmpty && value < Nat.pow 2 32)
  return trailing

def callWith (g : Grammar) : Parser Unit := do
  let _ ← group .paren (list (g.expr true))

/-- What follows a dot: fields, a call of a method, or a wait. -/
def afterDot (g : Grammar) : Parser Unit := do
  let finished ← do
    if let .literal (.float _ text) :: ts ← get then
      set ts
      match fieldNumbers? text with
      | some trailing => pure !trailing
      | .none => failure
    else pure false
  if finished then return
  if ← optWord "await" then return
  let named ← member
  let turbo ← if named && (← ahead (Ahead.isPunct "::")) then
      punct "::"
      let _ ← angleArguments g
      pure true
    else pure false
  if turbo || (named && (← ahead (Ahead.isGroup .paren))) then callWith g

/-- The calls, parts and indices after an operand. -/
def trailers (g : Grammar) (e : Expr) : Parser Expr :=
  iterate
    (fun e => do
      let ts ← get
      let isRange := e matches .range
      if Ahead.isGroup .paren ts then
        callWith g
        return some .other
      if isDot ts && !isRange then
        punct "."
        afterDot g
        return some .other
      if Ahead.isGroup .bracket ts then
        let _ ← group .bracket (g.expr true)
        return some .other
      if Ahead.isPunct "?" ts && !isRange then
        punct "?"
        return some .other
      return .none)
    e

/-- The fields of a struct in braces, after which another struct may stand. -/
def fieldValues (g : Grammar) : Parser Unit := do
  let _ ← iterate
    (fun (done : Bool) => do
      if done || (← isEnd) then return .none
      if ← optPunct ".." then
        unless ← isEnd do let _ ← g.expr true
        return some true
      let _ ← outerAttributes g
      let named ← member
      if !named || (← ahead (Ahead.isPunct ":")) then
        punct ":"
        let _ ← g.expr true
      unless ← isEnd do punct ","
      return some false)
    false

/-- A path, a call of a macro, or a struct. -/
def pathExpr (g : Grammar) (allowStruct : Bool) : Parser Expr := do
  let p ← typedPath g true
  if p.any PathForm.isPlain && (← ahead isCall) then
    punct "!"
    return if (← anyGroup) = .brace then .bracedCall else .other
  if allowStruct && (← ahead (Ahead.isGroup .brace)) then group .brace (fieldValues g)
  return .other

/-- Parentheses: one expression, or a tuple. -/
def parenExpr (g : Grammar) : Parser Expr :=
  group .paren do
    if ← isEnd then return .other
    let first ← g.expr true
    if ← isEnd then return .paren first
    punct ","
    let _ ← list (g.expr true)
    return .other

/-- Brackets: a list of expressions, or one that is repeated. -/
def bracketExpr (g : Grammar) : Parser Expr :=
  group .bracket do
    if ← isEnd then return .array []
    let first ← g.expr true
    if ← optPunct ";" then
      let _ ← g.expr true
      return .other
    unless ← isEnd do punct ","
    return .array (first :: (← list (g.expr true)))

/-- A call of the compiler itself. -/
def compilerCall : Parser Unit := do
  word "builtin"
  punct "#"
  let _ ← ident
  guard ((← anyGroup) = .paren)

/-- Words that start a path. -/
def startsPathExpr (ts : List Token) : Bool :=
  let rest := ts.drop 1
  startsWidePath ts ||
    (Ahead.isWord "try" ts && (Ahead.isPunct "!" rest || Ahead.isPunct "::" rest))

/-- An operand without prefix operators and without what may follow it. -/
def atom (g : Grammar) (allowStruct : Bool) : Parser Expr := do
  if let some e ← optBlockLike g then return e
  let ts ← get
  if Ahead.isLiteral ts then return .constant (← constant)
  if startsAsyncBlock ts then
    word "async"
    let _ ← optWord "move"
    block g
    return .other
  if startsClosure ts then
    closure g allowStruct
    return .other
  if Ahead.isWord "builtin" ts && Ahead.isPunct "#" (ts.drop 1) then
    compilerCall
    return .other
  if startsPathExpr ts then return (← pathExpr g allowStruct)
  if Ahead.isGroup .paren ts then return (← parenExpr g)
  if Ahead.isGroup .bracket ts then return (← bracketExpr g)
  if ← optJump g allowStruct then return .other
  if Ahead.isWord "let" ts then
    letExpr g allowStruct
    return .other
  if Ahead.isPunct ".." ts then return (← rangeExpr g allowStruct)
  word "_"
  return .other

/-- The mark of a reference, or of a pointer that is made from one. -/
def referenceMark : Parser Unit := do
  punct "&"
  let raw ← ahead (fun ts => Ahead.isWord "raw" ts && Ahead.isOneOf ["mut", "const"] (ts.drop 1))
  if raw then word "raw"
  let mutable ← optWord "mut"
  if raw && !mutable then word "const"

/-- An operand with its prefix operators. No attribute stands before a range. -/
def operandWith (g : Grammar) (allowStruct : Bool) : Parser Expr := do
  let attributes ← outerAttributes g
  if ← ahead (Ahead.isPunct "&") then
    referenceMark
    let _ ← g.operand allowStruct
    return .other
  if ← ahead (fun ts => Ahead.isPunct "*" ts || Ahead.isPunct "!" ts) then
    let _ ← token
    let _ ← g.operand allowStruct
    return .other
  if ← optPunct "-" then return .negated (← g.operand allowStruct)
  let e ← trailers g (← atom g allowStruct)
  guard (attributes.isEmpty || !(e matches .range))
  return e

def exprWith (g : Grammar) (allowStruct : Bool) : Parser Expr := do
  operatorsWith g (← operandWith g allowStruct) allowStruct Strength.none

/-- An expression that stands by itself. What starts with a block ends with it, unless a part of it is
taken. -/
def earlyWith (g : Grammar) : Parser Expr := do
  let _ ← outerAttributes g
  let some e ← optBlockLike g | exprWith g true
  if ← ahead (fun ts => isDot ts || Ahead.isPunct "?" ts) then
    operatorsWith g (← trailers g e) true Strength.none
  else return e

end SchemaGraph.Source.Grammar
