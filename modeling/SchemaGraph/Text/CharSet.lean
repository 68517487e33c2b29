/-! Sets of characters as sorted boundaries. -/
namespace SchemaGraph

/-- A set of code points: those with an odd number of boundaries at or below them. -/
structure CharSet where
  boundaries : Array Nat

namespace CharSet

/-- The number of entries of a sorted array at or below `x`, of which `low` to `high` are open. -/
def rank (a : Array Nat) (x : Nat) : Nat → Nat → Nat → Nat
  | 0, low, _ => low
  | steps + 1, low, high =>
    if high ≤ low then low
    else
      let mid := (low + high) / 2
      if a.getD mid 0 ≤ x then rank a x steps (mid + 1) high else rank a x steps low mid

def contains (s : CharSet) (c : Char) : Bool :=
  rank s.boundaries c.toNat (s.boundaries.size.log2 + 1) 0 s.boundaries.size % 2 = 1

end CharSet
end SchemaGraph
