import SchemaGraph.Resolution

/-! Resolution as a host asks for it, with the dimensions of arrays counted in words of 64 bits. A build
counts them exactly, which is the same where every count is a word. -/
namespace SchemaGraph

namespace TypeExpr

/-- An array of `dims` more dimensions, as `arrayOf` makes it, but for a sum that is too large for a word:
it starts again from zero. -/
def arrayOfWrapping (component : TypeExpr) (dims : Nat) : TypeExpr :=
  if dims = 0 then component
  else
    match component with
    | array inner n => array inner ((n + dims) % UInt64.size)
    | t => array t dims

mutual
/-- Replaces every variable, and every wildcard by its bound; without a bound nothing is known. -/
def substituteWrapping (σ : String → TypeExpr) : TypeExpr → TypeExpr
  | named n as => named n (substituteArgsWrapping σ as)
  | array c d => arrayOfWrapping (substituteWrapping σ c) d
  | var n => σ n
  | wildcard u => substituteBoundWrapping σ u
  | any => any

def substituteArgsWrapping (σ : String → TypeExpr) : List TypeExpr → List TypeExpr
  | [] => []
  | a :: as => substituteWrapping σ a :: substituteArgsWrapping σ as

def substituteBoundWrapping (σ : String → TypeExpr) : Option TypeExpr → TypeExpr
  | none => any
  | some u => substituteWrapping σ u
end

end TypeExpr

namespace Scope

/-- The meaning of a variable: its innermost binding, resolved in the frames outside the one that holds
it. -/
def meaningWrapping : Scope → String → TypeExpr
  | [], _ => .any
  | f :: outer, name =>
    match f.binding? name with
    | some bound => bound.substituteWrapping (meaningWrapping outer)
    | none => meaningWrapping outer name

/-- The type with every variable and wildcard replaced. -/
def resolveDeepWrapping (s : Scope) (t : TypeExpr) : TypeExpr := t.substituteWrapping s.meaningWrapping

/-- The type with a variable or wildcard at its top replaced. -/
def resolveWrapping (s : Scope) : TypeExpr → TypeExpr
  | .var n => s.meaningWrapping n
  | .wildcard u => TypeExpr.substituteBoundWrapping s.meaningWrapping u
  | t => t

end Scope
end SchemaGraph
