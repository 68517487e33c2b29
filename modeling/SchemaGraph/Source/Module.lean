import SchemaGraph.Source.Declared
import SchemaGraph.Index.Basic

/-! Names under the modules that declare them, and the items of sources in an index. -/
namespace SchemaGraph.Source

/-- The modules around a path that starts in one of them, and the rest of the path. -/
def outward : List String → List String → List String × List String
  | modules, "super" :: path@(_ :: _) => outward modules.dropLast path
  | modules, path => (modules, path)

/-- A path as written in a module, under the module that declares it: from the root, from the module
itself, from one around it, or the name of one of the module's own items. -/
def qualifiedName (module : String) (siblings : List String) (name : String) : String :=
  match PathName.segments name with
  | "crate" :: path@(_ :: _) => "::".intercalate path
  | "self" :: path@(_ :: _) => PathName.join module ("::".intercalate path)
  | path@("super" :: _ :: _) =>
    let (modules, rest) := outward ((PathName.segments module).filter (!·.isEmpty)) path
    PathName.join ("::".intercalate modules) ("::".intercalate rest)
  | _ => if siblings.contains name then PathName.join module name else name

mutual
/-- A type as written in a module, with all of its names under the modules that declare them. -/
def qualified (module : String) (siblings : List String) : TypeExpr → TypeExpr
  | .named name args =>
    .named (qualifiedName module siblings name) (qualifiedArgs module siblings args)
  | .array component dims => .arrayOf (qualified module siblings component) dims
  | .wildcard upper => .wildcard (qualifiedBound module siblings upper)
  | .var name => .var name
  | .any => .any

def qualifiedArgs (module : String) (siblings : List String) : List TypeExpr → List TypeExpr
  | [] => []
  | t :: ts => qualified module siblings t :: qualifiedArgs module siblings ts

def qualifiedBound (module : String) (siblings : List String) : Option TypeExpr → Option TypeExpr
  | none => none
  | some t => some (qualified module siblings t)
end

/-- A declaration under its module. -/
def placed (module : String) (siblings : List String) (d : Declaration) : Declaration :=
  { d with
    name := PathName.join module d.name
    params := d.params.map (fun p => { p with bound := p.bound.map (qualified module siblings) })
    members := d.members.map (fun m => { m with type := qualified module siblings m.type })
    supertypes := d.supertypes.map (qualified module siblings) }

/-- The name that an item declares for a type. -/
def Item.declaredName? : Item → Option String
  | .struct s => some (bareName s.name)
  | .enum e => some (bareName e.name)
  | .module .. | .other => none

mutual
/-- The declarations that an item of a module stands for. -/
def Item.declarations (module : String) (siblings : List String) : Item → List Declaration
  | .struct s => (s.declaration?.map (placed module siblings)).toList
  | .enum e => (e.declaration?.map (placed module siblings)).toList
  | .module name (some items) =>
    let inner := PathName.join module (bareName name)
    declarationsOf inner (items.filterMap Item.declaredName?) items
  | .module _ none | .other => []

/-- The declarations of a module's items, in their order. -/
def declarationsOf (module : String) (siblings : List String) : List Item → List Declaration
  | [] => []
  | item :: items => item.declarations module siblings ++ declarationsOf module siblings items
end

/-- The declarations of a source text as the module at a path; the path of the root is empty. -/
def declarations? (module text : String) : Option (List Declaration) := do
  let items ← itemsOfText? text
  return declarationsOf module (items.filterMap Item.declaredName?) items

end SchemaGraph.Source

namespace SchemaGraph.Index

/-- Adds the declarations of a source text as the module at a path. -/
def addSource? (i : Index) (module text : String) : Option (Index × Nat) := do
  let ds ← Source.declarations? module text
  return (ds.foldl insert i, ds.length)

end SchemaGraph.Index
