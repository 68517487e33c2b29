import SchemaGraph.Source.Grammar.Operand

/-! Statements. -/
namespace SchemaGraph.Source.Grammar

open Source.Parser

/-- Whether the last token that a reading took is in braces. -/
def endsInBrace (before after : List Token) : Bool :=
  match (before.take (before.length - after.length)).getLast? with
  | some (.group .brace _) => true
  | _ => false

/-- A binding of names. An alternative may follow a value that does not end in braces. -/
def letStatement (g : Grammar) : Parser Unit := do
  word "let"
  let _ ← g.pattern
  if ← optPunct ":" then let _ ← g.type true
  if ← optPunct "=" then
    let before ← get
    let _ ← g.expr true
    if !endsInBrace before (← get) && (← ahead (Ahead.isWord "else")) then
      word "else"
      block g
  punct ";"

/-- Words that start an item wherever they stand. -/
def itemWords : List String :=
  ["pub", "extern", "use", "fn", "mod", "type", "struct", "enum", "trait", "impl", "macro"]

/-- Words that start a function after other words. -/
def functionStarts : List String := ["unsafe", "extern", "fn"]

/-- Whether an item follows where a statement may stand. -/
def startsItem (ts : List Token) : Bool :=
  let next := ts.drop 1
  let after := next.drop 1
  Ahead.isOneOf itemWords ts ||
    (Ahead.isWord "crate" ts && !Ahead.isPunct "::" next) ||
    (Ahead.isWord "static" ts && (Ahead.isWord "mut" next || Ahead.isIdent next)) ||
    (Ahead.isWord "const" ts &&
      !(Ahead.isGroup .brace next || Ahead.isWord "static" next ||
        (Ahead.isWord "async" next && !Ahead.isOneOf functionStarts after) ||
        Ahead.isWord "move" next || Ahead.isPunct "|" next)) ||
    (Ahead.isWord "unsafe" ts && !Ahead.isGroup .brace next) ||
    (Ahead.isWord "async" ts && Ahead.isOneOf functionStarts next) ||
    (Ahead.isWord "union" ts && Ahead.isIdent next) ||
    (Ahead.isWord "auto" ts && Ahead.isWord "trait" next) ||
    (Ahead.isWord "default" ts && Ahead.isOneOf ["unsafe", "impl"] next)

/-- Kinds of statements that start with the path of a macro. -/
inductive MacroStart where
  | item
  | braced (after : List Token)
  | none

/-- What a call of a macro at the start of a statement is: an item when it names one, and a statement by
itself when it is in braces and no part of it is taken. -/
def macroStart (ts : List Token) : MacroStart :=
  match plainPath ts with
  | some (_, rest) =>
    let next := rest.drop 1
    let after := next.drop 1
    if !Ahead.isPunct "!" rest then .none
    else if Ahead.isIdent next || Ahead.isWord "try" next then .item
    else if Ahead.isGroup .brace next && !isDot after && !Ahead.isPunct "?" after then .braced after
    else .none
  | .none => .none

/-- A statement; whether a semicolon has to follow before another one. -/
def statement (g : Grammar) : Parser Bool := do
  let before ← get
  let _ ← outerAttributes g
  let ts ← get
  let start := macroStart ts
  if let .braced after := start then
    set after
    let _ ← optPunct ";"
    return false
  if Ahead.isWord "let" ts then
    letStatement g
    return false
  if startsItem ts || start matches .item then
    set before
    let _ ← g.item
    return false
  let e ← g.early
  let ended ← optPunct ";"
  return !ended && !(e matches .blockLike) && !(e matches .bracedCall)

def statementsWith (g : Grammar) : Parser Unit := do
  let _ ← iterate
    (fun (needsEnd : Bool) => do
      if ← optPunct ";" then return some false
      if ← isEnd then return .none
      guard (!needsEnd)
      return some (← statement g))
    false

end SchemaGraph.Source.Grammar
