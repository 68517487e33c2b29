import SchemaGraph.Source.Stream

/-! The parts of the grammar that contain each other. -/
namespace SchemaGraph.Source

/-- The readings that parts of the grammar refer to. A grammar is built from a smaller one, so that
none of its parts has to call itself. -/
structure Grammar where
  /-- A type; whether it may be a sum of bounds. -/
  type : Bool → Parser TypeForm
  /-- The bound of a parameter. -/
  bound : Parser BoundForm
  /-- An expression; whether it may be a struct in braces. -/
  expr : Bool → Parser Expr
  /-- An operand with its prefix operators. -/
  operand : Bool → Parser Expr
  /-- What may follow an operand: operators that bind at least as strongly as a level. -/
  operators : Expr → Bool → Nat → Parser Expr
  /-- An expression that stands by itself, as a statement or as the value of a case. -/
  early : Parser Expr
  /-- A pattern without alternatives. -/
  pattern : Parser PatternForm
  /-- The statements of a block. -/
  statements : Parser Unit
  /-- Fields in braces. -/
  fields : Parser (List Field)
  item : Parser Item
  /-- What an import names; whether it may start at the root. -/
  importTree : Bool → Parser Unit

namespace Grammar

/-- The grammar of nothing. -/
def none : Grammar where
  type _ := failure
  bound := failure
  expr _ := failure
  operand _ := failure
  operators _ _ _ := failure
  early := failure
  pattern := failure
  statements := failure
  fields := failure
  item := failure
  importTree _ := failure

end Grammar
end SchemaGraph.Source
