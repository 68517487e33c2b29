import SchemaGraph.Source.Grammar.Pattern

/-! Operators between operands. -/
namespace SchemaGraph.Source

/-! How strongly operators bind, from the weakest on. -/
namespace Strength

def none : Nat := 0
def assign : Nat := 1
def range : Nat := 2
def either : Nat := 3
def both : Nat := 4
def compare : Nat := 6
def bitOr : Nat := 7
def bitXor : Nat := 8
def bitAnd : Nat := 9
def shift : Nat := 10
def sum : Nat := 11
def product : Nat := 12
def cast : Nat := 13

/-- The operators between two operands, none of them after one that it starts with. -/
def operators : List (String × Nat) :=
  [("+=", assign), ("-=", assign), ("*=", assign), ("/=", assign), ("%=", assign), ("^=", assign),
   ("&=", assign), ("|=", assign), ("<<=", assign), (">>=", assign), ("&&", both), ("||", either),
   ("<<", shift), (">>", shift), ("==", compare), ("<=", compare), ("!=", compare), (">=", compare),
   ("+", sum), ("-", sum), ("*", product), ("/", product), ("%", product), ("^", bitXor),
   ("&", bitAnd), ("|", bitOr), ("<", compare), (">", compare)]

end Strength

namespace Grammar

open Source.Parser

/-- The operator that follows, with its strength. -/
def operatorAhead (ts : List Token) : Option (String × Nat) :=
  Strength.operators.find? (fun (op, _) => Ahead.isPunct op ts)

/-- Whether an assignment follows. -/
def isAssign (ts : List Token) : Bool := Ahead.isPunct "=" ts && !Ahead.isPunct "=>" ts

/-- Whether a dot follows that takes a part. -/
def isDot (ts : List Token) : Bool := Ahead.isPunct "." ts && !Ahead.isPunct ".." ts

/-- The strength of what follows an operand. -/
def strengthAhead (ts : List Token) : Nat :=
  match operatorAhead ts with
  | some (_, s) => s
  | .none =>
    if isAssign ts then Strength.assign
    else if Ahead.isPunct ".." ts then Strength.range
    else if Ahead.isWord "as" ts then Strength.cast
    else Strength.none

/-- The operand on the right of an operator, with all that binds more strongly. -/
def rightSide (g : Grammar) (allowStruct : Bool) (strength : Nat) : Parser Expr := do
  let first ← g.operand allowStruct
  iterate
    (fun e => do
      let next := strengthAhead (← get)
      if next > strength || (next = strength && strength = Strength.assign) then
        let before := (← get).length
        let e ← g.operators e allowStruct next
        return if (← get).length = before then .none else some e
      return .none)
    first

/-- Tokens after which a range has no end. -/
def rangeEnders : List String :=
  [",", ";", "?", "=>", "=", "+", "/", "%", "^", ">", "<=", "!=", "-=", "*=", "&=", "|=", "<<="]

/-- The dots of a range with its end. -/
def rangeExpr (g : Grammar) (allowStruct : Bool) : Parser Expr := do
  let closed ← optPunct "..="
  if !closed then
    guard (!(← ahead (Ahead.isPunct "...")))
    punct ".."
  let endless ← ahead (fun ts =>
    ts.isEmpty || rangeEnders.any (Ahead.isPunct · ts) || isDot ts || Ahead.isWord "as" ts ||
      (!allowStruct && Ahead.isGroup .brace ts))
  if closed || !endless then let _ ← rightSide g allowStruct Strength.range
  return .range

/-- Whether something follows that may not follow a type given by a cast. -/
def spoilsCast (ts : List Token) : Bool :=
  isDot ts || Ahead.isPunct "?" ts || Ahead.isGroup .bracket ts || Ahead.isGroup .paren ts

/-- One operator after an operand, of at least a given strength; a range takes none. -/
def operatorStep (g : Grammar) (allowStruct : Bool) (least : Nat) (e : Expr) :
    Parser (Option Expr) := do
  if e matches .range then return .none
  let ts ← get
  match operatorAhead ts with
  | some (op, strength) =>
    if strength < least then return .none
    guard (strength ≠ Strength.compare || !(e matches .comparison))
    punct op
    let _ ← rightSide g allowStruct strength
    return some (if strength = Strength.compare then .comparison else .other)
  | .none =>
    if least ≤ Strength.assign && isAssign ts then
      punct "="
      let _ ← rightSide g allowStruct Strength.assign
      return some .other
    if least ≤ Strength.range && Ahead.isPunct ".." ts then
      return some (← rangeExpr g allowStruct)
    if least ≤ Strength.cast && Ahead.isWord "as" ts then
      word "as"
      let _ ← g.type false
      guard (!(← ahead spoilsCast))
      return some .other
    return .none

def operatorsWith (g : Grammar) (e : Expr) (allowStruct : Bool) (least : Nat) : Parser Expr :=
  iterate (operatorStep g allowStruct least) e

end Grammar
end SchemaGraph.Source
