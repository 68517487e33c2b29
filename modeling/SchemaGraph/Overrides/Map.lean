import SchemaGraph.Overrides.Basic
import SchemaGraph.PathName

/-! Overrides supplied beside the declarations, by owner and member. -/
namespace SchemaGraph

/-- Overrides of members and of types. An owner is found by its full name, else by its last segment. -/
structure OverrideMap where
  members : List ((String × String) × Overrides) := []
  types : List (String × Overrides) := []
deriving Inhabited

namespace OverrideMap

def insertMember (m : OverrideMap) (owner member : String) (o : Overrides) : OverrideMap :=
  { m with members := Assoc.put (owner, member) o m.members }

def insertType (m : OverrideMap) (owner : String) (o : Overrides) : OverrideMap :=
  { m with types := Assoc.put owner o m.types }

def member? (m : OverrideMap) (owner member : String) : Option Overrides :=
  (m.members.lookup (owner, member)).or (m.members.lookup (PathName.short owner, member))

def type? (m : OverrideMap) (owner : String) : Option Overrides :=
  (m.types.lookup owner).or (m.types.lookup (PathName.short owner))

def isEmpty (m : OverrideMap) : Bool := m.members.isEmpty && m.types.isEmpty

end OverrideMap
end SchemaGraph
