import SchemaGraph.Declaration

/-! The meaning of type variables: frames of bindings, and substitution through them. -/
namespace SchemaGraph

/-- The generic scope of a class whose members are walked. -/
structure Frame where
  owner : Option TypeExpr := none
  member : Option String := none
  /-- The types of the parameters in declaration order. -/
  bindings : List (String × TypeExpr) := []
deriving DecidableEq, Inhabited, Repr

namespace Frame

/-- What a parameter stands for: its argument, or its bound for a missing or unbounded one, or
nothing known. -/
def argumentFor (p : TypeParam) : Option TypeExpr → TypeExpr
  | none | some (.wildcard none) => p.bound.getD .any
  | some a => a

/-- The parameters with the arguments at their places. -/
def pair : List TypeParam → List TypeExpr → List (String × TypeExpr)
  | [], _ => []
  | p :: ps, [] => (p.name, argumentFor p none) :: pair ps []
  | p :: ps, a :: as => (p.name, argumentFor p (some a)) :: pair ps as

def ofType (owner : TypeExpr) (d : Declaration) : Frame where
  owner := some owner
  bindings := (pair d.params owner.args).foldl (fun m (n, t) => Assoc.put n t m) []

def binding? (f : Frame) (name : String) : Option TypeExpr := f.bindings.lookup name

def bind (f : Frame) (name : String) (t : TypeExpr) : Frame :=
  { f with bindings := Assoc.put name t f.bindings }

end Frame

/-- Frames, the innermost first. -/
abbrev Scope := List Frame

namespace TypeExpr

mutual
/-- Replaces every variable, and every wildcard by its bound; without a bound nothing is known. -/
def substitute (σ : String → TypeExpr) : TypeExpr → TypeExpr
  | named n as => named n (substituteArgs σ as)
  | array c d => arrayOf (substitute σ c) d
  | var n => σ n
  | wildcard u => substituteBound σ u
  | any => any

def substituteArgs (σ : String → TypeExpr) : List TypeExpr → List TypeExpr
  | [] => []
  | a :: as => substitute σ a :: substituteArgs σ as

def substituteBound (σ : String → TypeExpr) : Option TypeExpr → TypeExpr
  | none => any
  | some u => substitute σ u
end

end TypeExpr

namespace Scope

/-- The meaning of a variable: its innermost binding, whose own variables belong to the frames
outside the one that holds it. -/
def meaning : Scope → String → TypeExpr
  | [], _ => .any
  | f :: outer, name =>
    match f.binding? name with
    | some bound => bound.substitute (meaning outer)
    | none => meaning outer name

/-- The type with every variable and wildcard replaced. -/
def resolveDeep (s : Scope) (t : TypeExpr) : TypeExpr := t.substitute s.meaning

/-- The type with a variable or wildcard at its top replaced. -/
def resolve (s : Scope) : TypeExpr → TypeExpr
  | .var n => s.meaning n
  | .wildcard u => TypeExpr.substituteBound s.meaning u
  | t => t

/-- Notes the member that is being walked in the innermost frame. -/
def setMember (s : Scope) (member : Option String) : Scope :=
  match s with
  | [] => []
  | f :: outer => { f with member } :: outer

def owner? (s : Scope) : Option TypeExpr := s.head?.bind Frame.owner

end Scope
end SchemaGraph
