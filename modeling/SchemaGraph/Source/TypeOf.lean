import SchemaGraph.Source.Syntax
import SchemaGraph.TypeExpr.Basic

/-! The types that source types stand for. -/
namespace SchemaGraph.Source

/-- Traits that say nothing about the shape of a value. -/
def markerTraits : List String :=
  ["Send", "Sync", "Sized", "Unpin", "Copy", "Clone", "Debug", "Fn", "FnMut", "FnOnce", "Iterator",
   "IntoIterator", "Serialize", "Deserialize"]

/-- Whether a bound is a marker trait. -/
def isMarkerBound : TypeExpr → Bool
  | .named name _ => markerTraits.contains name
  | _ => false

namespace TypeForm

mutual
/-- The type that a source type stands for: `params` are variables, references and pointers are seen
through, a bounded type is a wildcard, and what has no name is any type. -/
def toTypeExpr (params : List String) : TypeForm → TypeExpr
  | path false [(name, none)] => if params.contains name then .var name else .named name []
  | path _ segments =>
    .named ("::".intercalate (segments.map Prod.fst)) (lastArgs params segments)
  | array element => .arrayOf (toTypeExpr params element) 1
  | around inner => toTypeExpr params inner
  | unit => .named "()" []
  | infer => .wildcard none
  | bounded bounds => .wildcard ((toTypeExprs params bounds).find? (!isMarkerBound ·))
  | other => .any

def toTypeExprs (params : List String) : List TypeForm → List TypeExpr
  | [] => []
  | t :: ts => toTypeExpr params t :: toTypeExprs params ts

/-- The arguments of the last segment of a path. -/
def lastArgs (params : List String) : List (String × Option (List TypeForm)) → List TypeExpr
  | [] => []
  | [(_, some args)] => toTypeExprs params args
  | [(_, none)] => []
  | _ :: segments => lastArgs params segments
end

end TypeForm
end SchemaGraph.Source

namespace SchemaGraph.TypeExpr

/-- The type that a source text writes. -/
def ofSource? (text : String) (params : List String) : Option TypeExpr :=
  (Source.TypeForm.ofText? text).map (·.toTypeExpr params)

end SchemaGraph.TypeExpr
