import SchemaGraph.Source.Grammar.Param

/-! Paths, their arguments, and bounds. -/
namespace SchemaGraph.Source.Grammar

open Source.Parser

/-- What follows the parentheses of function arguments; whether it may be a sum of bounds. -/
def returnType (g : Grammar) (allowSum : Bool) : Parser Unit := do
  if ← optPunct "->" then let _ ← g.type allowSum

/-- A generic argument, when it is a type. -/
def genericArgument (g : Grammar) : Parser (Option TypeForm) := do
  if (← ahead Ahead.isLifetime) && !(← second (Ahead.isPunct "+")) then
    lifetime
    return .none
  if ← ahead startsConst then
    constArgument g
    return .none
  let t ← g.type true
  let .path false [_] := t | return some t
  if ← optPunct "=" then
    if ← ahead startsConst then constArgument g
    else let _ ← g.type true
    return .none
  if ← optPunct ":" then
    let _ ← separated "+" (fun ts => Ahead.isPunct "," ts || Ahead.isPunct ">" ts) g.bound
    return .none
  return some t

/-- Generic arguments in angle brackets: the types among them. -/
def angleArguments (g : Grammar) : Parser (List TypeForm) := do
  punct "<"
  let args ← separated "," (Ahead.isPunct ">") (genericArgument g)
  punct ">"
  return args.filterMap id

/-- A segment of a path. In expressions its arguments stand after a double colon. -/
def segment (g : Grammar) (inExpr : Bool) : Parser (String × Option (List TypeForm)) := do
  if ← ahead (Ahead.isOneOf ["super", "self", "crate", "try"]) then return (← anyIdent, .none)
  let name ← if ← ahead (Ahead.isWord "Self") then anyIdent else ident
  let direct := !inExpr && (← ahead (Ahead.isPunct "<")) && !(← ahead (Ahead.isPunct "<="))
  let turbo := (← ahead (Ahead.isPunct "::")) && (← third (Ahead.isPunct "<"))
  if direct || turbo then
    let _ ← optPunct "::"
    return (name, some (← angleArguments g))
  return (name, .none)

/-- Whether another segment follows, and not the arguments of a call. -/
def startsRest (ts : List Token) : Bool :=
  Ahead.isPunct "::" ts && !Ahead.isGroup .paren (ts.drop 2)

def path (g : Grammar) (inExpr : Bool) : Parser PathForm := do
  let anchored ← optPunct "::"
  let first ← segment g inExpr
  let rest ← whileAhead startsRest (do punct "::"; segment g inExpr)
  return { anchored, segments := first :: rest }

/-- A path, which may start in a type; nothing for one that does. -/
def typedPath (g : Grammar) (inExpr : Bool) : Parser (Option PathForm) := do
  if ← optPunct "<" then
    let _ ← g.type true
    if ← optWord "as" then let _ ← path g false
    punct ">"
    punct "::"
    let _ ← segment g inExpr
    let _ ← whileAhead (Ahead.isPunct "::") (do punct "::"; segment g inExpr)
    return .none
  return some (← path g inExpr)

/-- The arguments of a function trait, with its result. -/
def callArguments (g : Grammar) : Parser Unit := do
  let _ ← group .paren (list (g.type true))
  returnType g false

def traitBound (g : Grammar) (allowConst : Bool) : Parser BoundForm := do
  let early ← optForLifetimes g
  let bracketed ← ahead (Ahead.isGroup .bracket)
  if bracketed then group .bracket (word "const")
  let isConst ← if bracketed then pure true else optWord "const"
  guard (allowConst || !isConst)
  let relaxed ← optPunct "?"
  if !early && relaxed then let _ ← optForLifetimes g
  let p ← path g false
  let arguments := (p.segments.getLast?.bind Prod.snd).getD []
  let atCall := (← ahead (Ahead.isGroup .paren)) ||
    ((← ahead (Ahead.isPunct "::")) && (← third (Ahead.isGroup .paren)))
  if arguments.isEmpty && atCall then
    let _ ← optPunct "::"
    callArguments g
    let called := p.segments.getLast?.map (fun (name, _) => (name, some []))
    let segments := p.segments.dropLast ++ called.toList
    return if isConst then .constTrait else .trait { p with segments }
  return if isConst then .constTrait else .trait p

/-- The captured parameters of a type that hides them. -/
def captures : Parser Unit := do
  word "use"
  punct "<"
  let _ ← separated "," (Ahead.isPunct ">") do
    if ← ahead Ahead.isLifetime then lifetime
    else if !(← optWord "Self") then let _ ← ident
  punct ">"

/-- A bound: whether it may capture parameters, and whether it may be constant. -/
def boundWith (g : Grammar) (allowCaptures allowConst : Bool) : Parser BoundForm := do
  if ← ahead Ahead.isLifetime then
    lifetime
    return .region
  if ← ahead (Ahead.isWord "use") then
    guard allowCaptures
    captures
    return .region
  if ← ahead (Ahead.isGroup .paren) then group .paren (traitBound g allowConst)
  else traitBound g allowConst

/-- Whether another bound follows a plus. -/
def startsBound (allowConst : Bool) (ts : List Token) : Bool :=
  Ahead.isAnyIdent ts || Ahead.isPunct "::" ts || Ahead.isPunct "?" ts || Ahead.isLifetime ts ||
    Ahead.isGroup .paren ts || (allowConst && Ahead.isGroup .bracket ts)

/-- The bounds after a first one. -/
def moreBounds (g : Grammar) (allowCaptures allowConst : Bool) : Parser (List BoundForm) := do
  let (all, _) ← iterate
    (fun ((acc, done) : List BoundForm × Bool) => do
      if done then return .none
      if !(← optPunct "+") then return .none
      if ← ahead (startsBound allowConst) then
        return some ((← boundWith g allowCaptures allowConst) :: acc, false)
      return some (acc, true))
    ([], false)
  return all.reverse

/-- One bound, or a sum of them where that is allowed. -/
def boundSum (g : Grammar) (allowSum allowCaptures allowConst : Bool) :
    Parser (List BoundForm) := do
  let first ← boundWith g allowCaptures allowConst
  let rest ← if allowSum then moreBounds g allowCaptures allowConst else pure []
  return first :: rest

end SchemaGraph.Source.Grammar
