import SchemaGraph.Index.Basic

/-! The kinds of a name: its own markers and those of its supertypes. -/
namespace SchemaGraph.Index

/-- Whether a name or its declaration has a marker by itself. -/
def hasMarker (i : Index) (m : Marker) (name : String) : Bool :=
  (i.markersOf name).contains m ||
    (i.lookup name).any (fun d => d.markers.contains m || (m = .enum && d.isEnum))

/-- The names of the class-typed supertypes of a name. -/
def parents (i : Index) (name : String) : List String :=
  match i.lookup name with
  | some d => d.supertypes.filterMap TypeExpr.baseName?
  | none => []

/-- Searches the names that are `pending` and what they lead to, but for the `seen` ones. There is no
answer when the steps run out before the names do. -/
def search? (i : Index) (m : Marker) : Nat → List String → List String → Option Bool
  | 0, _, _ => none
  | _ + 1, _, [] => some false
  | fuel + 1, seen, name :: pending =>
    if seen.contains name then search? i m fuel seen pending
    else if i.hasMarker m name then some true
    else search? i m fuel (name :: seen) ((i.parents name).reverse ++ pending)

/-- A bound on the steps of a search: each declaration is entered under at most as many names as
there are supertypes, and each entry adds its supertypes to the pending names. -/
def searchBound (i : Index) : Nat :=
  let supertypes := i.declarations.foldl (fun n (_, d) => n + d.supertypes.length) 0
  (supertypes + 2) * (supertypes + 2)

/-- Whether a name is of a kind, by itself or through its supertypes. -/
def isA (i : Index) (name : String) (m : Marker) : Bool :=
  (i.search? m i.searchBound [] [name]).getD false

end SchemaGraph.Index
