import SchemaGraph.Assoc
import SchemaGraph.Number.Binary64

/-! JSON values; the fields of an object keep their order. -/
namespace SchemaGraph

/-- A JSON value. `unreadable` is a well-formed token without a value, such as a number beyond
binary64 or a string with an unpaired surrogate: it may be skipped, and never used. -/
inductive Json where
  | null
  | bool (value : Bool)
  | int (value : Int)
  | float (value : Binary64)
  | str (value : String)
  | arr (items : List Json)
  | obj (fields : List (String × Json))
  | unreadable
deriving Inhabited, Repr

namespace Json

/-! Equality is decidable. -/

mutual
def same : Json → Json → Bool
  | null, null => true
  | bool a, bool b => a == b
  | int a, int b => a == b
  | float a, float b => a == b
  | str a, str b => a == b
  | arr a, arr b => sameItems a b
  | obj a, obj b => sameFields a b
  | unreadable, unreadable => true
  | _, _ => false

def sameItems : List Json → List Json → Bool
  | [], [] => true
  | a :: as, b :: bs => same a b && sameItems as bs
  | _, _ => false

def sameFields : List (String × Json) → List (String × Json) → Bool
  | [], [] => true
  | (k, a) :: as, (l, b) :: bs => k == l && same a b && sameFields as bs
  | _, _ => false
end

mutual
theorem same_iff : ∀ a b : Json, same a b = true ↔ a = b
  | arr a, b => by cases b <;> simp [same, sameItems_iff]
  | obj a, b => by cases b <;> simp [same, sameFields_iff]
  | null, b | bool _, b | int _, b | float _, b | str _, b | unreadable, b => by
    cases b <;> simp [same]

theorem sameItems_iff : ∀ a b : List Json, sameItems a b = true ↔ a = b
  | [], [] | [], _ :: _ | _ :: _, [] => by simp [sameItems]
  | a :: as, b :: bs => by simp [sameItems, same_iff a b, sameItems_iff as bs]

theorem sameFields_iff : ∀ a b : List (String × Json), sameFields a b = true ↔ a = b
  | [], [] | [], _ :: _ | _ :: _, [] => by simp [sameFields]
  | (k, a) :: as, (l, b) :: bs => by
    simp [sameFields, same_iff a b, sameFields_iff as bs, and_assoc]
end

instance : DecidableEq Json := fun a b => decidable_of_iff _ (same_iff a b)

mutual
/-- The value with the fields of every object sorted by key, the last of a key's fields winning, and
with null for a float that JSON cannot write; nothing when it nests more than `room` objects and
arrays, or holds an unreadable token. -/
def canonical (room : Nat) : Json → Option Json
  | unreadable => none
  | float x => some (if x.isFinite then float x else null)
  | arr items => do
    guard (0 < room)
    return arr (← canonicalItems (room - 1) items)
  | obj fields => do
    guard (0 < room)
    return obj (Assoc.sorted (← canonicalFields (room - 1) fields))
  | j => some j

def canonicalItems (room : Nat) : List Json → Option (List Json)
  | [] => some []
  | j :: js => return (← canonical room j) :: (← canonicalItems room js)

def canonicalFields (room : Nat) : List (String × Json) → Option (List (String × Json))
  | [] => some []
  | (k, j) :: js => return (k, ← canonical room j) :: (← canonicalFields room js)
end

/-- The deepest nesting of objects and arrays that is read. -/
def maxDepth : Nat := 127

end Json
end SchemaGraph
