import SchemaGraph.TypeExpr.Basic

/-! The order of types: by kind, then by name, argument by argument, with a type before its extensions. -/
namespace SchemaGraph.TypeExpr

/-- The place of a type's kind. -/
def kindRank : TypeExpr → Nat
  | named .. => 0
  | array .. => 1
  | var _ => 2
  | wildcard _ => 3
  | any => 4

mutual
def order : TypeExpr → TypeExpr → Ordering
  | named n as, named m bs => (compare n m).then (orderArgs as bs)
  | array a d, array b e => (order a b).then (compare d e)
  | var n, var m => compare n m
  | wildcard u, wildcard v => orderBound u v
  | a, b => compare a.kindRank b.kindRank

def orderArgs : List TypeExpr → List TypeExpr → Ordering
  | [], [] => .eq
  | [], _ :: _ => .lt
  | _ :: _, [] => .gt
  | a :: as, b :: bs => (order a b).then (orderArgs as bs)

def orderBound : Option TypeExpr → Option TypeExpr → Ordering
  | none, none => .eq
  | none, some _ => .lt
  | some _, none => .gt
  | some a, some b => order a b
end

instance : Ord TypeExpr := ⟨order⟩

end SchemaGraph.TypeExpr
