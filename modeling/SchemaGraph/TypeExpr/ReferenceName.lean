import SchemaGraph.Text.Case
import SchemaGraph.TypeExpr.Basic

/-! The names of definitions, derived from the types they stand for. -/
namespace SchemaGraph.TypeExpr

/-- The letters, digits and underscores of a name's last segment, capitalised. -/
def nameSegment (name : String) : List Char :=
  Text.capitalize
    ((PathName.short name).toList.filter (fun c => Text.isAlphanumeric c || c = '_'))

mutual
/-- The last segment of the name, followed by the names of the arguments: `PageVecUser` for
`Page<Vec<User>>`. An array adds `Array`, and an unknown type reads `Object`. -/
def referenceChars : TypeExpr → List Char
  | named n as => nameSegment n ++ referenceArgs as
  | array c _ => referenceChars c ++ "Array".toList
  | var n => Text.capitalize n.toList
  | wildcard _ | any => "Object".toList

def referenceArgs : List TypeExpr → List Char
  | [] => []
  | a :: as => referenceChars a ++ referenceArgs as
end

/-- The name that a type's definition asks for; never empty. -/
def referenceName (t : TypeExpr) : String :=
  match t.referenceChars with
  | [] => "Object"
  | cs => String.ofList cs

end SchemaGraph.TypeExpr
