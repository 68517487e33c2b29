import SchemaGraph.Source.Grammar.Statement

/-! Functions, and the parts that several kinds of items share. -/
namespace SchemaGraph.Source.Grammar

open Source.Parser

/-- Who may see an item: everyone, a part of the program, or the module itself. Parentheses that name no
part are left. Whether anything is said. -/
def visibility : Parser Bool := do
  if !(← optWord "pub") then return false
  let part : Parser Unit := group .paren do
    if ← optWord "in" then let _ ← plainPath
    else
      guard (← ahead (Ahead.isOneOf ["crate", "self", "super"]))
      let _ ← anyIdent
  match ← get with
  | .group .paren (.ident "in" :: _) :: _ => part
  | _ => let _ ← attempt part
  return true

/-- The words before a function, and whether one follows them. -/
def functionPrefix (allowSafe : Bool) : Parser Bool := do
  let _ ← optWord "const"
  let _ ← optWord "async"
  if allowSafe && (← ahead (Ahead.isWord "safe")) then word "safe"
  else let _ ← optWord "unsafe"
  optInterface
  ahead (Ahead.isWord "fn")

/-- Whether a function follows. -/
def startsFunction (allowSafe : Bool) (ts : List Token) : Bool :=
  (functionPrefix allowSafe ts).any Prod.fst

def receiver (g : Grammar) : Parser Unit := do
  let isReference ← optPunct "&"
  if isReference && (← ahead Ahead.isLifetime) then lifetime
  let _ ← optWord "mut"
  word "self"
  if isReference then return
  if ← optPunct ":" then let _ ← g.type true

/-- Kinds of parameters of a function. -/
inductive ParamKind where
  | receiver
  | typed
  | variadic
deriving DecidableEq

def parameter (g : Grammar) : Parser ParamKind := do
  if ← optPunct "..." then return .variadic
  if (← attempt (receiver g)).isSome then return .receiver
  if (← ahead Ahead.isIdent) && (← second (Ahead.isPunct "<")) then
    let _ ← g.type true
    return .typed
  let _ ← g.pattern
  punct ":"
  if ← optPunct "..." then return .variadic
  let _ ← g.type true
  return .typed

/-- The parameters of a function: a receiver only first, and a variadic one only last. -/
def parameters (g : Grammar) : Parser Unit := do
  let _ ← iterate
    (fun ((isFirst, done) : Bool × Bool) => do
      if done || (← isEnd) then return .none
      let _ ← outerAttributes g
      let kind ← parameter g
      guard (isFirst || kind ≠ .receiver)
      unless ← isEnd do punct ","
      return some (false, kind = .variadic))
    (true, false)

/-- A function up to its body. -/
def signature (g : Grammar) (allowSafe : Bool) : Parser Unit := do
  guard (← functionPrefix allowSafe)
  word "fn"
  let _ ← ident
  let _ ← generics g
  group .paren (parameters g)
  returnType g true
  optWhere g

/-- A body in braces, or a semicolon in its place. -/
def bodyOrEnd (g : Grammar) : Parser Unit := do
  if !(← optPunct ";") then blockWithAttributes g

/-- A type with its bounds and its definition; whether conditions may stand before and after the
definition. -/
def typeAlias (g : Grammar) (before after : Bool) : Parser Unit := do
  word "type"
  let _ ← ident
  let _ ← generics g
  let ends (ts : List Token) : Bool :=
    Ahead.isWord "where" ts || Ahead.isPunct "=" ts || Ahead.isPunct ";" ts
  if ← optPunct ":" then
    boundsUntil g ends
    guard (← ahead ends)
  let early ← ahead (Ahead.isWord "where")
  if before then optWhere g
  if ← optPunct "=" then let _ ← g.type true
  if after && !(before && early) then optWhere g
  punct ";"

/-- A constant with its type and value, after its keyword. -/
def constantDefinition (g : Grammar) : Parser Unit := do
  guard (← ahead (fun ts => Ahead.isIdent ts || Ahead.isWord "_" ts))
  let _ ← anyIdent
  let _ ← generics g
  punct ":"
  let _ ← g.type true
  if ← optPunct "=" then let _ ← g.expr true
  optWhere g
  punct ";"

def startsMacroPath (ts : List Token) : Bool :=
  Ahead.isIdent ts || Ahead.isOneOf ["self", "super", "crate"] ts || Ahead.isPunct "::" ts

/-- A call of a macro, which a semicolon ends unless it is in braces; whether it may name an item. -/
def macroCall (allowName : Bool) : Parser Unit := do
  let _ ← plainPath
  punct "!"
  if allowName && (← ahead (fun ts => Ahead.isIdent ts || Ahead.isWord "try" ts)) then
    let _ ← anyIdent
  if (← anyGroup) ≠ .brace then punct ";"

end SchemaGraph.Source.Grammar
