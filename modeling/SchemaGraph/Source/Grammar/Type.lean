import SchemaGraph.Source.Grammar.Path

/-! Types. -/
namespace SchemaGraph.Source.Grammar

open Source.Parser

/-- A bounded type, which needs a trait among its bounds. -/
def boundedType (bounds : List BoundForm) : Parser TypeForm := do
  guard (!bounds.all BoundForm.isRegion)
  return .bounded (bounds.filterMap BoundForm.traitType?)

/-- A bounded type that starts with a trait already read. -/
def boundedFrom (g : Grammar) (first : TypeForm) : Parser TypeForm := do
  let rest ← moreBounds g false false
  return .bounded (first :: rest.filterMap BoundForm.traitType?)

/-- An argument of a function type, which may have a name or be the receiver. -/
def functionTypeArgument (g : Grammar) (isFirst : Bool) :
    Parser Unit := do
  let _ ← outerAttributes g
  let selfAhead ← ahead (Ahead.isWord "self")
  let mutSelf := isFirst && (← ahead (Ahead.isWord "mut")) && (← second (Ahead.isWord "self"))
  if mutSelf then word "mut"
  let nameAhead ← ahead (fun ts => Ahead.isIdent ts || Ahead.isWord "_" ts ||
    (isFirst && Ahead.isWord "self" ts))
  let colonAhead ← second (fun ts => Ahead.isPunct ":" ts && !Ahead.isPunct "::" ts)
  if nameAhead && colonAhead then
    let _ ← anyIdent
    punct ":"
    let _ ← g.type true
  else if mutSelf then word "self"
  else if isFirst && selfAhead && !colonAhead then
    let _ ← g.type true
  else let _ ← g.type true

/-- Whether a variadic argument follows. -/
def startsVariadic (ts : List Token) : Bool :=
  Ahead.isPunct "..." ts ||
    ((Ahead.isIdent ts || Ahead.isWord "_" ts) && Ahead.isPunct ":" (ts.drop 1) &&
      Ahead.isPunct "..." (ts.drop 2))

def variadic : Parser Unit := do
  unless ← ahead (Ahead.isPunct "...") do
    let _ ← anyIdent
    punct ":"
  punct "..."
  let _ ← optPunct ","

/-- The binary interface of a function. -/
def optInterface : Parser Unit := do
  if ← optWord "extern" then
    if ← ahead (fun | .literal (.str _) :: _ => true | _ => false) then let _ ← string

/-- A function type after its lifetimes. -/
def functionType (g : Grammar) : Parser Unit := do
  let _ ← optWord "unsafe"
  optInterface
  word "fn"
  group .paren do
    let _ ← iterate
      (fun ((isFirst, done) : Bool × Bool) => do
        if done || (← isEnd) then return .none
        let _ ← outerAttributes g
        if ← ahead startsVariadic then
          variadic
          return some (false, true)
        functionTypeArgument g isFirst
        unless ← isEnd do punct ","
        return some (false, false))
      (true, false)
  returnType g false

/-- A type that starts with a path; `isFor` when lifetimes are stated before it. -/
def pathType (g : Grammar) (allowSum isFor : Bool) : Parser TypeForm := do
  match ← typedPath g false with
  | .none => return .other
  | some p =>
    let isCall := (← ahead (Ahead.isPunct "!")) && !(← ahead (Ahead.isPunct "!="))
    if isCall && p.isPlain then
      punct "!"
      let _ ← anyGroup
      return .other
    if isFor || (allowSum && (← ahead (Ahead.isPunct "+"))) then
      if allowSum then boundedFrom g p.toType else return .bounded [p.toType]
    else return p.toType

/-- The rest of a tuple after its first type. -/
def tupleType (g : Grammar) : Parser TypeForm := do
  punct ","
  let _ ← list (g.type true)
  return .other

/-- A single path or trait for any lifetimes, when it is all that stands in parentheses. -/
def loneTrait (g : Grammar) : Parser (Option TypeForm) := do
  if !(← ahead (Ahead.isWord "for")) then return .none
  let alone ← attempt (do
    let .bounded [p] ← g.type false | failure
    guard (← isEnd)
    return p)
  return alone

/-- What stands in parentheses: a type, and the bound that it is when a sum may start with it. -/
def parenContent (g : Grammar) (allowSum : Bool) : Parser (TypeForm × Option TypeForm) := do
  if ← isEnd then return (.unit, .none)
  if ← ahead Ahead.isLifetime then
    return (← boundedType (← boundSum g true false false), .none)
  if ← ahead (Ahead.isPunct "?") then
    match ← traitBound g false with
    | .trait p => return (.bounded [p.toType], some p.toType)
    | _ => failure
  if let some p ← loneTrait g then return (.bounded [p], if allowSum then some p else .none)
  let first ← g.type true
  if ← ahead (Ahead.isPunct ",") then return (← tupleType g, .none)
  match first with
  | .path .. => return (.around first, if allowSum then some first else .none)
  | _ => return (.around first, .none)

/-- A type in parentheses, which may be the first bound of a sum. -/
def parenType (g : Grammar) (allowSum : Bool) : Parser TypeForm := do
  match ← group .paren (parenContent g allowSum) with
  | (t, .none) => return t
  | (t, some first) =>
    let rest ← whileAhead (Ahead.isPunct "+") (do punct "+"; boundWith g false false)
    return if rest.isEmpty then t else .bounded (first :: rest.filterMap BoundForm.traitType?)

/-- A type in brackets: a slice, or an array with its length. -/
def bracketType (g : Grammar) : Parser TypeForm :=
  group .bracket do
    let element ← g.type true
    if ← optPunct ";" then let _ ← g.expr true
    return .array element

def pointerType (g : Grammar) : Parser TypeForm := do
  punct "*"
  unless ← optWord "const" do word "mut"
  return .around (← g.type false)

def referenceType (g : Grammar) : Parser TypeForm := do
  punct "&"
  if ← ahead Ahead.isLifetime then lifetime
  let _ ← optWord "mut"
  return .around (← g.type false)

/-- A trait object after its keyword; an object behind a star is none. -/
def objectType (g : Grammar) (allowSum : Bool) : Parser TypeForm := do
  word "dyn"
  let star ← optPunct "*"
  let t ← boundedType (← boundSum g allowSum false false)
  return if star then .other else t

def hiddenType (g : Grammar) (allowSum : Bool) : Parser TypeForm := do
  word "impl"
  boundedType (← boundSum g allowSum true true)

/-- Words that start a function type. -/
def functionWords : List String := ["fn", "unsafe", "extern"]

/-- A type; whether it may be a sum of bounds. -/
def typeWith (g : Grammar) (allowSum : Bool) :
    Parser TypeForm := do
  let isFor ← optForLifetimes g
  let startsPath (ts : List Token) : Bool :=
    if isFor then Ahead.isIdent ts || Ahead.isOneOf Ahead.pathWords ts
    else Ahead.isPathStart ts || Ahead.isPunct "<" ts
  if ← ahead (Ahead.isOneOf functionWords) then
    functionType g
    return .other
  if ← ahead startsPath then pathType g allowSum isFor
  else if isFor then failure
  else if ← ahead (Ahead.isGroup .paren) then parenType g allowSum
  else if ← ahead (Ahead.isWord "dyn") then objectType g allowSum
  else if ← ahead (Ahead.isGroup .bracket) then bracketType g
  else if ← ahead (Ahead.isPunct "*") then pointerType g
  else if ← ahead (Ahead.isPunct "&") then referenceType g
  else if (← ahead (Ahead.isPunct "!")) && !(← ahead (Ahead.isPunct "!=")) then
    punct "!"
    return .other
  else if ← ahead (Ahead.isWord "impl") then hiddenType g allowSum
  else if ← optWord "_" then return .infer
  else if ← ahead Ahead.isLifetime then boundedType (← boundSum g true false false)
  else failure

end SchemaGraph.Source.Grammar
