import SchemaGraph.Source.Grammar.Attribute

/-! Generic parameters, and conditions on them. -/
namespace SchemaGraph.Source.Grammar

open Source.Parser

def block (g : Grammar) : Parser Unit := group .brace g.statements

/-- A block that may start with attributes of its own. -/
def blockWithAttributes (g : Grammar) : Parser Unit :=
  group .brace (do innerAttributes g; g.statements)

/-- A constant argument: a literal or a block. -/
def constArgument (g : Grammar) : Parser Unit := do
  if ← ahead Ahead.isLiteral then let _ ← constant
  else blockWithAttributes g

/-- Whether a constant argument follows. -/
def startsConst (ts : List Token) : Bool := Ahead.isLiteral ts || Ahead.isGroup .brace ts

/-- A colon that is not doubled. -/
def isColon (ts : List Token) : Bool := Ahead.isPunct ":" ts && !Ahead.isPunct "::" ts

/-- Bounds up to a place where they may end. -/
def boundsUntil (g : Grammar) (stop : List Token → Bool) : Parser Unit := do
  let _ ← separated "+" stop g.bound

def lifetimeParam : Parser Unit := do
  lifetime
  if ← optPunct ":" then
    let _ ← separated "+"
      (fun ts => ts.isEmpty || Ahead.isPunct "," ts || Ahead.isPunct ">" ts) lifetime

/-- A type parameter with its bounds and default. -/
def typeParam (g : Grammar) : Parser GenericParam := do
  let name ← ident
  if ← optPunct ":" then
    boundsUntil g (fun ts =>
      ts.isEmpty || Ahead.isPunct "," ts || Ahead.isPunct ">" ts || Ahead.isPunct "=" ts)
  let default? ← if ← optPunct "=" then some <$> g.type true else pure .none
  return { name, default? }

/-- A constant parameter with its type and default. -/
def constParam (g : Grammar) : Parser Unit := do
  word "const"
  let _ ← ident
  punct ":"
  let _ ← g.type true
  if ← optPunct "=" then constArgument g

/-- A parameter, when it is a type. -/
def genericParam (g : Grammar) : Parser (Option GenericParam) := do
  let _ ← outerAttributes g
  if ← ahead Ahead.isLifetime then
    lifetimeParam
    return .none
  if ← ahead (Ahead.isWord "const") then
    constParam g
    return .none
  return some (← typeParam g)

/-- A parameter of an item, when it is a type. -/
def itemParam (g : Grammar) : Parser (Option GenericParam) := do
  let _ ← outerAttributes g
  if ← optWord "_" then return some { name := "_", default? := .none }
  genericParam g

/-- The type parameters of an item. -/
def generics (g : Grammar) : Parser (List GenericParam) := do
  if !(← optPunct "<") then return []
  let all ← separated "," (Ahead.isPunct ">") (itemParam g)
  punct ">"
  return all.filterMap id

/-- The parameters that a type, a bound or a closure is stated for, when they are there. -/
def optForLifetimes (g : Grammar) : Parser Bool := do
  if !(← optWord "for") then return false
  punct "<"
  let _ ← separated "," (Ahead.isPunct ">") (genericParam g)
  punct ">"
  return true

/-- Whether an angle bracket opens parameters, and not a path into a type. -/
def startsParams (ts : List Token) : Bool :=
  let rest := ts.drop 1
  let after := rest.drop 1
  Ahead.isPunct "<" ts &&
    (Ahead.isPunct ">" rest || Ahead.isPunct "#" rest || Ahead.isWord "const" rest ||
      ((Ahead.isLifetime rest || Ahead.isIdent rest) &&
        (Ahead.isPunct ">" after || Ahead.isPunct "," after || isColon after ||
          Ahead.isPunct "=" after)))

/-- Whether conditions end. -/
def endsConditions (ts : List Token) : Bool :=
  ts.isEmpty || Ahead.isGroup .brace ts || Ahead.isPunct "," ts || Ahead.isPunct ";" ts ||
    isColon ts || Ahead.isPunct "=" ts

def condition (g : Grammar) : Parser Unit := do
  if (← ahead Ahead.isLifetime) && (← second (Ahead.isPunct ":")) then
    lifetime
    punct ":"
    let _ ← separated "+" (fun ts => endsConditions ts || Ahead.isPunct ":" ts) lifetime
  else
    let _ ← optForLifetimes g
    let _ ← g.type true
    punct ":"
    boundsUntil g endsConditions

/-- The conditions on parameters, when they are there. -/
def optWhere (g : Grammar) : Parser Unit := do
  if ← optWord "where" then
    guard (!(← ahead startsParams))
    let _ ← separated "," endsConditions (condition g)

end SchemaGraph.Source.Grammar
