import SchemaGraph.Overrides.Text
import SchemaGraph.TypeExpr.Basic

/-! Declarations of classes and enumerations. -/
namespace SchemaGraph

/-- Kinds that a name may have. -/
inductive Marker where
  | collection
  | iterable
  | map
  | set
  | enum
  /-- A wrapper of one argument that may be absent. -/
  | optional
  /-- A wrapper of one argument without a schema of its own. -/
  | transparent
deriving DecidableEq, Inhabited, Repr

namespace Marker

def all : List Marker := [collection, iterable, map, set, enum, optional, transparent]

def word : Marker → String
  | collection => "collection"
  | iterable => "iterable"
  | map => "map"
  | set => "set"
  | enum => "enum"
  | optional => "optional"
  | transparent => "transparent"

def decode : Json.Decoder Marker := .word (all.map (fun m => (m.word, m)))

/-- A set of markers in the order of `all`. -/
def sorted (ms : List Marker) : List Marker := all.filter (ms.contains ·)

end Marker

structure TypeParam where
  name : String
  bound : Option TypeExpr := none
deriving DecidableEq, Inhabited, Repr

structure Member where
  name : String
  type : TypeExpr
  overrides : Overrides := {}
deriving DecidableEq, Inhabited, Repr

inductive DeclarationKind where
  | record
  | enumeration (values : List String)
deriving DecidableEq, Inhabited, Repr

/-- A class, or an enumeration of values. -/
structure Declaration where
  name : String
  kind : DeclarationKind := .record
  params : List TypeParam := []
  members : List Member := []
  supertypes : List TypeExpr := []
  markers : List Marker := []
  overrides : Overrides := {}
deriving DecidableEq, Inhabited, Repr

namespace Declaration

def values? (d : Declaration) : Option (List String) :=
  match d.kind with
  | .enumeration vs => some vs
  | .record => none

def isEnum (d : Declaration) : Bool := d.values?.isSome

end Declaration
end SchemaGraph
