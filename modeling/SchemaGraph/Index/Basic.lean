import SchemaGraph.Declaration

/-! Declarations and markers by name. -/
namespace SchemaGraph

/-- Declarations in the order of their first insertion, one for each name, and markers of names that
need no declaration. -/
structure Index where
  declarations : List (String × Declaration) := []
  /-- The declared names by their last segments. -/
  shortNames : List (String × List String) := []
  markers : List (String × List Marker) := []
deriving Inhabited

namespace Index

/-- The declared names with a last segment. -/
def bucket (i : Index) (short : String) : List String := (i.shortNames.lookup short).getD []

/-- Adds a declaration, or puts it in the place of the one with its name. -/
def insert (i : Index) (d : Declaration) : Index :=
  let short := PathName.short d.name
  let names := i.bucket short
  { i with
    declarations := Assoc.put d.name d i.declarations
    shortNames :=
      Assoc.put short (if names.contains d.name then names else names ++ [d.name]) i.shortNames }

def addMarker (i : Index) (name : String) (m : Marker) : Index :=
  { i with markers := Assoc.put name (m :: (i.markers.lookup name).getD []) i.markers }

/-- The declaration of exactly this name. -/
def declared? (i : Index) (name : String) : Option Declaration := i.declarations.lookup name

/-- The declared names that share the last segment of a name and agree with it on every segment that
both spell out. -/
def candidates (i : Index) (name : String) : List String :=
  (i.bucket (PathName.short name)).filter (PathName.tailsMatch · name)

/-- The declaration of a name: the one of exactly this name, else the only candidate. -/
def lookup (i : Index) (name : String) : Option Declaration :=
  match i.declared? name with
  | some d => some d
  | none =>
    match i.candidates name with
    | [full] => i.declared? full
    | _ => none

/-- The markers of a name: those of exactly this name, else those of its last segment. -/
def markersOf (i : Index) (name : String) : List Marker :=
  ((i.markers.lookup name).or (i.markers.lookup (PathName.short name))).getD []

def size (i : Index) : Nat := i.declarations.length

def names (i : Index) : List String := i.declarations.map Prod.fst

/-- The standard containers and wrappers. -/
def standardMarkers : List (Marker × List String) :=
  [(.collection, ["Vec", "VecDeque", "LinkedList", "BinaryHeap", "HashSet", "BTreeSet", "IndexSet"]),
   (.set, ["HashSet", "BTreeSet", "IndexSet"]),
   (.map, ["HashMap", "BTreeMap", "IndexMap"]),
   (.optional, ["Option"]),
   (.transparent, ["Box", "Rc", "Arc", "Cow", "RefCell", "Cell", "Mutex", "RwLock"])]

/-- The index that knows the standard containers and wrappers. -/
def standard : Index :=
  standardMarkers.foldl (fun i (m, names) => names.foldl (fun i n => i.addMarker n m) i) {}

end Index
end SchemaGraph
