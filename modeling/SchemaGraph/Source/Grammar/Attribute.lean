import SchemaGraph.Source.Grammar.Basic

/-! Attributes, and the paths that name them. -/
namespace SchemaGraph.Source.Grammar

open Source.Parser

/-- Whether a segment of a path without arguments follows. -/
def startsSegment (ts : List Token) : Bool := Ahead.isIdent ts || Ahead.isOneOf Ahead.pathWords ts

/-- A path without arguments, as in attributes and calls of macros. -/
def plainPath : Parser PathForm := do
  let plainSegment : Parser String := do
    guard (← ahead startsSegment)
    anyIdent
  let anchored ← optPunct "::"
  let first ← plainSegment
  let rest ← whileAhead (Ahead.isPunct "::") (do punct "::"; plainSegment)
  return { anchored, segments := (first :: rest).map (·, Option.none) }

/-- The value of an attribute. A literal by itself may be a negative number. -/
def attributeValue (g : Grammar) : Parser Expr := do
  if ← ahead Ahead.isLiteral then
    if let some c ← attempt (do let c ← constant; guard (← isEnd); return c) then
      return .constant c
  guard (!(← ahead (Ahead.isPunct "#")) || !(← second (Ahead.isGroup .bracket)))
  g.expr true

/-- What stands in the brackets of an attribute. -/
def attributeContent (g : Grammar) : Parser Attribute := do
  let path ← if ← optWord "unsafe" then
      pure { anchored := false, segments := [("unsafe", Option.none)] }
    else plainPath
  if let .group _ content :: ts ← get then
    set ts
    return { path, body := .list content }
  if ← optPunct "=" then return { path, body := .value (← attributeValue g) }
  return { path, body := .bare }

/-- An attribute of what follows it. -/
def outerAttribute (g : Grammar) : Parser Attribute := do
  punct "#"
  group .bracket (attributeContent g)

/-- The attributes of what follows them. -/
def outerAttributes (g : Grammar) : Parser (List Attribute) :=
  whileAhead (Ahead.isPunct "#") (outerAttribute g)

/-- Whether an attribute of what is around it follows. -/
def startsInner (ts : List Token) : Bool :=
  Ahead.isPunct "#" ts && Ahead.isPunct "!" (ts.drop 1)

/-- The attributes of what is around them. -/
def innerAttributes (g : Grammar) : Parser Unit := do
  let _ ← whileAhead startsInner do
    punct "#"
    punct "!"
    group .bracket (attributeContent g)

end SchemaGraph.Source.Grammar
