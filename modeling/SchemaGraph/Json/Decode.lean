import SchemaGraph.Json.Basic

/-! Typed reading of JSON values; `room` is the number of objects and arrays that may still nest. -/
namespace SchemaGraph.Json

/-- A reading of JSON values as values of another type. -/
abbrev Decoder (α : Type) := Nat → Json → Option α

namespace Decoder

def string : Decoder String
  | _, .str s => some s
  | _, _ => none

def bool : Decoder Bool
  | _, .bool b => some b
  | _, _ => none

/-- A count of 64 bits, written as an integer. -/
def count : Decoder Nat
  | _, .int n => if 0 ≤ n ∧ n < Int.pow 2 64 then some n.toNat else none
  | _, _ => none

/-- A binary64 number; integers are rounded to one. -/
def number : Decoder Binary64
  | _, .int n => some (.ofInt n)
  | _, .float x => some x
  | _, _ => none

/-- Any value, with its objects sorted. -/
def value : Decoder Json := fun room j => j.canonical room

/-- Null is no value. -/
def nullable {α : Type} (d : Decoder α) : Decoder (Option α)
  | _, .null => some none
  | room, j => (d room j).map some

def list {α : Type} (d : Decoder α) : Decoder (List α)
  | room, .arr items => if room = 0 then none else items.mapM (d (room - 1))
  | _, _ => none

/-- The fields of an object, sorted by key; the last value of a key wins. -/
def sortedMap {α : Type} (d : Decoder α) : Decoder (List (String × α))
  | room, .obj fields =>
    if room = 0 then none
    else do
      let entries ← fields.mapM (fun (k, j) => return (k, ← d (room - 1) j))
      return Assoc.sorted entries
  | _, _ => none

/-- One word of a fixed list, bare or as the only key of an object over null. -/
def word {α : Type} (words : List (String × α)) : Decoder α
  | _, .str s => words.lookup s
  | room, .obj [(s, .null)] => if room = 0 then none else words.lookup s
  | _, _ => none

end Decoder

/-- How a record is read: its keys in order, whether other keys are refused, and how many leading
keys an array of their values has to cover. -/
structure RecordShape where
  keys : List String
  closed : Bool
  least : Nat

/-- The fields of a record with the room left for their values. -/
structure Fields where
  room : Nat
  entries : List (String × Json)

/-- The fields of an object that has each known key at most once, or of an array that lists their
values in order. -/
def RecordShape.fields (shape : RecordShape) (room : Nat) : Json → Option Fields
  | .obj fields =>
    let known := fields.filter (fun (k, _) => shape.keys.contains k)
    if room = 0 ∨ (shape.closed ∧ known.length ≠ fields.length) ∨ !(known.map Prod.fst).Nodup then
      none
    else some { room := room - 1, entries := known }
  | .arr items =>
    if room = 0 ∨ shape.keys.length < items.length ∨ items.length < shape.least then none
    else some { room := room - 1, entries := shape.keys.zip items }
  | _ => none

namespace Fields

def required {α : Type} (f : Fields) (key : String) (d : Decoder α) : Option α := do
  d f.room (← f.entries.lookup key)

/-- A field with a value for its absence. -/
def getOr {α : Type} (f : Fields) (key : String) (d : Decoder α) (absent : α) : Option α :=
  match f.entries.lookup key with
  | some j => d f.room j
  | none => some absent

/-- A field that may be missing or null. -/
def optional {α : Type} (f : Fields) (key : String) (d : Decoder α) : Option (Option α) :=
  f.getOr key d.nullable none

end Fields
end SchemaGraph.Json
