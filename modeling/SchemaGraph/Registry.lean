import SchemaGraph.Schema.Basic
import SchemaGraph.TypeExpr.ReferenceName

/-! The definitions of a build, one for each instantiation. -/
namespace SchemaGraph

/-- A definition: named when it is first asked for, with its body once that has been walked. -/
structure Entry where
  signature : String
  /-- The instantiation it stands for. -/
  type : TypeExpr
  name : String
  /-- The definition whose body asked for it first. -/
  parent : Option Nat := none
  completed : Bool := false
  body : Schema := {}
deriving Inhabited

/-- Definitions in the order in which they were found; an identifier is a place in that order. -/
structure Registry where
  place : String
  entries : List Entry := []
deriving Inhabited

namespace Registry

def size (r : Registry) : Nat := r.entries.length

def get? (r : Registry) (id : Nat) : Option Entry := r.entries[id]?

def lookup (r : Registry) (signature : String) : Option Nat :=
  r.entries.findIdx? (·.signature == signature)

def byName? (r : Registry) (name : String) : Option Entry := r.entries.find? (·.name == name)

def isTaken (r : Registry) (name : String) : Bool := (r.byName? name).isSome

/-- The first free name among `base` with the suffixes from `k` on, tried at most `fuel` times. -/
def freeSuffix (r : Registry) (base : String) : Nat → Nat → String
  | 0, k => base ++ toString k
  | fuel + 1, k =>
    if r.isTaken (base ++ toString k) then freeSuffix r base fuel (k + 1) else base ++ toString k

/-- `base`, or when it is taken `base` with the least free number from 2 on. As many numbers as there
are entries cannot all be taken beside `base`. -/
def freeName (r : Registry) (base : String) : String :=
  if r.isTaken base then r.freeSuffix base r.size 2 else base

/-- The definition of a signature, created without a body when there is none. -/
def insert (r : Registry) (signature : String) (type : TypeExpr) (base : String)
    (parent : Option Nat := none) : Nat × Registry :=
  match r.lookup signature with
  | some id => (id, r)
  | none =>
    let entry : Entry := { signature, type, name := r.freeName base, parent }
    (r.size, { r with entries := r.entries ++ [entry] })

/-- Whether an entry instantiates the generic type of `t` less deeply. -/
def shallower (t : TypeExpr) (e : Entry) : Bool :=
  e.type.baseName? = t.baseName? ∧ e.type.depth < t.depth

/-- The first shallower entry among `from`, its parent, and so on, at most `fuel` of them. -/
def ancestorFrom (r : Registry) (t : TypeExpr) : Nat → Option Nat → Option Entry
  | 0, _ | _, none => none
  | fuel + 1, some id =>
    match r.get? id with
    | none => none
    | some e => if shallower t e then some e else ancestorFrom r t fuel e.parent

/-- The nearest definition on the chain of parents from `start` that instantiates the same generic
type less deeply: expanding `t` would lead to a deeper instantiation again and again. -/
def growingAncestor (r : Registry) (start : Option Nat) (t : TypeExpr) : Option TypeExpr :=
  if t.isParameterized then (r.ancestorFrom t (r.size + 1) start).map Entry.type else none

def reference (r : Registry) (id : Nat) : Schema :=
  .reference (Reference.below r.place ((r.get? id).map Entry.name |>.getD "")).pointer

/-- Stores the walked body of a definition. -/
def complete (r : Registry) (id : Nat) (body : Schema) : Registry :=
  { r with entries := r.entries.modify id (fun e => { e with body, completed := true }) }

/-- The number of definitions without their bodies. -/
def pending (r : Registry) : Nat := (r.entries.filter (!·.completed)).length

def definitions (r : Registry) : List (String × Schema) :=
  Assoc.sorted (r.entries.map (fun e => (e.name, e.body)))

end Registry
end SchemaGraph
