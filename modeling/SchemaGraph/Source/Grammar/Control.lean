import SchemaGraph.Source.Grammar.Operator

/-! Expressions that start with a word: conditionals, loops, closures and jumps. -/
namespace SchemaGraph.Source.Grammar

open Source.Parser

/-- Whether an expression may follow. -/
def startsExpr (ts : List Token) : Bool :=
  (Ahead.isAnyIdent ts && !Ahead.isWord "as" ts) || Ahead.isGroup .paren ts ||
    Ahead.isGroup .bracket ts || Ahead.isGroup .brace ts || Ahead.isLiteral ts ||
    (Ahead.isPunct "!" ts && !Ahead.isPunct "!=" ts) ||
    (Ahead.isPunct "-" ts && !Ahead.isPunct "-=" ts && !Ahead.isPunct "->" ts) ||
    (Ahead.isPunct "*" ts && !Ahead.isPunct "*=" ts) ||
    (Ahead.isPunct "|" ts && !Ahead.isPunct "|=" ts) ||
    (Ahead.isPunct "&" ts && !Ahead.isPunct "&=" ts) || Ahead.isPunct ".." ts ||
    (Ahead.isPunct "<" ts && !Ahead.isPunct "<=" ts && !Ahead.isPunct "<<=" ts) ||
    Ahead.isPunct "::" ts || Ahead.isLifetime ts || Ahead.isPunct "#" ts

def closureParam (g : Grammar) : Parser Unit := do
  let _ ← outerAttributes g
  let _ ← g.pattern
  if ← optPunct ":" then let _ ← g.type true

def closure (g : Grammar) (allowStruct : Bool) : Parser Unit := do
  let _ ← optForLifetimes g
  let _ ← optWord "const"
  let _ ← optWord "static"
  let _ ← optWord "async"
  let _ ← optWord "move"
  punct "|"
  let _ ← iterate
    (fun () => do
      if ← ahead (Ahead.isPunct "|") then return .none
      closureParam g
      unless ← ahead (Ahead.isPunct "|") do punct ","
      return some ())
    ()
  punct "|"
  if ← optPunct "->" then
    let _ ← g.type true
    block g
  else let _ ← g.operators (← g.operand allowStruct) allowStruct Strength.none

/-- The value that a jump gives, when it is there. -/
def optValue (g : Grammar) : Parser Unit := do
  if ← ahead startsExpr then let _ ← g.expr true

def breakExpr (g : Grammar) (allowStruct : Bool) : Parser Unit := do
  word "break"
  if ← ahead Ahead.isLifetime then
    lifetime
    guard (!(← ahead (Ahead.isPunct ":")))
  if ← ahead (fun ts => startsExpr ts && (allowStruct || !Ahead.isGroup .brace ts)) then
    let _ ← g.expr true

/-- A pattern that a value is matched with, as a condition. -/
def letExpr (g : Grammar) (allowStruct : Bool) : Parser Unit := do
  word "let"
  let _ ← anyPattern g
  punct "="
  let _ ← g.operators (← g.operand allowStruct) allowStruct Strength.compare

def ifExpr (g : Grammar) : Parser Unit := do
  let _ ← outerAttributes g
  let _ ← iterate
    (fun (done : Bool) => do
      if done then return .none
      word "if"
      let _ ← g.expr false
      block g
      if !(← optWord "else") then return some true
      if ← ahead (Ahead.isWord "if") then return some false
      block g
      return some true)
    false

def whileExpr (g : Grammar) : Parser Unit := do
  word "while"
  let _ ← g.expr false
  blockWithAttributes g

def forExpr (g : Grammar) : Parser Unit := do
  word "for"
  let _ ← anyPattern g
  word "in"
  let _ ← g.expr false
  blockWithAttributes g

def loopExpr (g : Grammar) : Parser Unit := do
  word "loop"
  blockWithAttributes g

/-- Whether parameters follow a word. -/
def startsParamsAfter (ts : List Token) : Bool := startsParams (ts.drop 1)

/-- A loop or a block with a label. -/
def labeledExpr (g : Grammar) : Parser Unit := do
  lifetime
  punct ":"
  if ← ahead (Ahead.isWord "while") then whileExpr g
  else if ← ahead (Ahead.isWord "for") then forExpr g
  else if ← ahead (Ahead.isWord "loop") then loopExpr g
  else blockWithAttributes g

/-- One case of a match; whether its value needs a comma after it. -/
def matchArm (g : Grammar) : Parser Unit := do
  let _ ← outerAttributes g
  let _ ← anyPattern g
  if ← optWord "if" then let _ ← g.expr true
  punct "=>"
  let needsComma := !((← g.early) matches .blockLike)
  if needsComma && !(← isEnd) then punct "," else let _ ← optPunct ","

def matchExpr (g : Grammar) : Parser Unit := do
  word "match"
  let _ ← g.expr false
  group .brace do
    innerAttributes g
    let _ ← untilEnd (matchArm g)

/-- A block, a conditional, a match or a loop, when one follows. -/
def optBlockLike (g : Grammar) : Parser (Option Expr) := do
  let ts ← get
  let blockNext := Ahead.isGroup .brace (ts.drop 1)
  let read (p : Parser Unit) : Parser (Option Expr) := do p; return some .blockLike
  if Ahead.isWord "if" ts then read (ifExpr g)
  else if Ahead.isWord "while" ts then read (whileExpr g)
  else if Ahead.isWord "for" ts && !startsParamsAfter ts then read (forExpr g)
  else if Ahead.isWord "loop" ts then read (loopExpr g)
  else if Ahead.isWord "match" ts then read (matchExpr g)
  else if Ahead.isWord "try" ts && blockNext then read (do word "try"; block g)
  else if Ahead.isWord "unsafe" ts then read (do word "unsafe"; blockWithAttributes g)
  else if Ahead.isWord "const" ts && blockNext then read (constBlock g)
  else if Ahead.isGroup .brace ts then read (blockWithAttributes g)
  else if Ahead.isLifetime ts then read (labeledExpr g)
  else return .none

/-- Whether a block that is run later follows. -/
def startsAsyncBlock (ts : List Token) : Bool :=
  let rest := ts.drop 1
  Ahead.isWord "async" ts &&
    (Ahead.isGroup .brace rest || (Ahead.isWord "move" rest && Ahead.isGroup .brace (rest.drop 1)))

def startsClosure (ts : List Token) : Bool :=
  let rest := ts.drop 1
  Ahead.isPunct "|" ts || Ahead.isWord "move" ts || Ahead.isWord "static" ts ||
    (Ahead.isWord "for" ts && startsParamsAfter ts) ||
    (Ahead.isWord "const" ts && !Ahead.isGroup .brace rest) ||
    (Ahead.isWord "async" ts && (Ahead.isPunct "|" rest || Ahead.isWord "move" rest))

/-- A jump, or a value that is given to a caller, when one follows; whether it does. -/
def optJump (g : Grammar) (allowStruct : Bool) : Parser Bool := do
  let ts ← get
  if Ahead.isWord "break" ts then breakExpr g allowStruct
  else if ← optWord "continue" then
    if ← ahead Ahead.isLifetime then lifetime
  else if ← optWord "return" then optValue g
  else if ← optWord "yield" then optValue g
  else if ← optWord "become" then let _ ← g.expr true
  else return false
  return true

end SchemaGraph.Source.Grammar
