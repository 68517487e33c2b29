import SchemaGraph.Source.Syntax
import SchemaGraph.Json.Basic

/-! The JSON values of literal expressions. -/
namespace SchemaGraph.Source

/-- The value of a literal: a text, an integer of 64 bits, a finite float, or a truth value. -/
def Constant.json? : Constant → Option Json
  | .token (.str s) => some (.str s)
  | .token (.int n _) => if n < Nat.pow 2 63 then some (.int n) else none
  | .token (.float x _) => if x.isFinite then some (.float x) else none
  | .token .other => none
  | .bool b => some (.bool b)

/-- The opposite of a number. -/
def negated? : Json → Option Json
  | .int n => some (.int (-n))
  | .float x => some (.float x.neg)
  | _ => none

namespace Expr

mutual
/-- The value of a literal, of its opposite, or of a list of values. -/
def json? : Expr → Option Json
  | constant c => c.json?
  | negated e => e.json?.bind negated?
  | array items => (jsons? items).map .arr
  | paren e => e.json?
  | range | comparison | blockLike | bracedCall | other => none

def jsons? : List Expr → Option (List Json)
  | [] => some []
  | e :: es => return (← json? e) :: (← jsons? es)
end

end Expr
end SchemaGraph.Source
