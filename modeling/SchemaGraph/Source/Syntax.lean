import SchemaGraph.Source.Lexer
import SchemaGraph.Source.Grammar.Item

/-! From source text to types, expressions and items. -/
namespace SchemaGraph.Source

namespace Grammar

/-- The grammar whose parts contain each other at most `n` deep. -/
def level : Nat → Grammar
  | 0 => none
  | n + 1 =>
    let g := level n
    { type := typeWith g
      bound := boundWith g false true
      expr := exprWith g
      operand := operandWith g
      operators := operatorsWith g
      early := earlyWith g
      pattern := patternWith g
      statements := statementsWith g
      fields := namedFields g
      item := itemWith g
      importTree := importTreeWith g }

/-- A grammar deep enough for these tokens: between two tokens no more than a few parts open. -/
def forTokens (ts : List Token) : Grammar := level (4 * Token.sizeAll ts + 16)

end Grammar

/-- Reads all tokens of a text. -/
def readAll? {α : Type} (p : Grammar → Parser α) (text : String) : Option α := do
  let ts ← tokens? text
  Parser.complete (p (.forTokens ts)) ts

/-- The type that a text writes. -/
def TypeForm.ofText? (text : String) : Option TypeForm := readAll? (fun g => g.type true) text

/-- The expression that a text writes. -/
def Expr.ofText? (text : String) : Option Expr := readAll? (fun g => g.expr true) text

/-- The struct that a text declares. -/
def StructItem.ofText? (text : String) : Option StructItem :=
  readAll? (fun g => do Grammar.structItem g (← Grammar.outerAttributes g)) text

/-- The enumeration that a text declares. -/
def EnumItem.ofText? (text : String) : Option EnumItem :=
  readAll? (fun g => do Grammar.enumItem g (← Grammar.outerAttributes g)) text

/-- The text of a file after the line that names its interpreter. An attribute may start like one. -/
def dropInterpreter (cs : List Char) : List Char :=
  if startsWith "#!" cs && (skipBlanks cs.length (cs.drop 2)).head? ≠ some '[' then
    cs.dropWhile (· ≠ '\n')
  else cs

/-- The items of a file. -/
def itemsOfText? (text : String) : Option (List Item) :=
  let cs := text.toList
  let cs := if cs.head? = some '\uFEFF' then cs.tail else cs
  readAll? (fun g => do Grammar.innerAttributes g; Parser.untilEnd g.item)
    (String.ofList (dropInterpreter cs))

end SchemaGraph.Source
