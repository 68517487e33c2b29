import SchemaGraph.Json.Basic

/-! Tables as they are built up by headers and keys: which of them may be entered again. -/
namespace SchemaGraph.Toml

/-- How a table came to be. -/
inductive TableOrigin where
  /-- By a header of its own. -/
  | header
  /-- On the way to the table of another header. -/
  | passed
  /-- By a dotted key. -/
  | dotted
deriving DecidableEq, Inhabited, Repr

/-- A value, a table, or an array of the tables of one header. -/
inductive Node where
  | leaf (value : Json)
  | table (origin : TableOrigin) (entries : List (String × Node))
  | tables (items : List (List (String × Node)))
deriving Inhabited

/-- The entries of a table. -/
abbrev Entries := List (String × Node)

namespace Node

mutual
/-- The value that a node stands for. -/
def toJson : Node → Json
  | leaf value => value
  | table _ entries => .obj (fieldsOf entries)
  | tables items => .arr (itemsOf items)

def fieldsOf : List (String × Node) → List (String × Json)
  | [] => []
  | (k, n) :: entries => (k, toJson n) :: fieldsOf entries

def itemsOf : List (List (String × Node)) → List Json
  | [] => []
  | entries :: items => .obj (fieldsOf entries) :: itemsOf items
end

end Node

namespace Entries

/-- Adds a value under a dotted key. The tables on the way may be new or stem from no header, or be
the last ones of arrays; the last of them stems from dotted keys, and the key itself is new. -/
def addValue (value : Json) : List String → Entries → Option Entries
  | [], _ => none
  | [k], entries =>
    if (entries.lookup k).isSome then none else some (Assoc.put k (.leaf value) entries)
  | k :: path, entries =>
    match entries.lookup k with
    | none => do return Assoc.put k (.table .dotted (← addValue value path [])) entries
    | some (.table origin inner) =>
      if origin = .header ∨ (origin = .passed ∧ path.length = 1) then none
      else do return Assoc.put k (.table origin (← addValue value path inner)) entries
    | some (.tables items) =>
      match items.getLast? with
      | some last =>
        if path.length = 1 then none
        else do return Assoc.put k (.tables (items.dropLast ++ [← addValue value path last])) entries
      | none => none
    | some (.leaf _) => none

/-- Changes the table at the end of a path of a header; tables on the way are made, and of an array of
tables the last one counts. -/
def changeAt (change : Entries → Option Entries) : List String → Entries → Option Entries
  | [], entries => change entries
  | k :: path, entries =>
    match entries.lookup k with
    | none => do return Assoc.put k (.table .passed (← changeAt change path [])) entries
    | some (.table origin inner) => do
      return Assoc.put k (.table origin (← changeAt change path inner)) entries
    | some (.tables items) =>
      match items.getLast? with
      | some last => do
        return Assoc.put k (.tables (items.dropLast ++ [← changeAt change path last])) entries
      | none => none
    | some (.leaf _) => none

/-- Puts the values of a header's table at its name, which is new or only passed before. -/
def addTable (k : String) (own : Entries → Option Entries) (entries : Entries) : Option Entries :=
  match entries.lookup k with
  | none => do return Assoc.put k (.table .header (← own [])) entries
  | some (.table .passed inner) => do return Assoc.put k (.table .header (← own inner)) entries
  | _ => none

/-- Adds the values of a header's table to the array of tables at its name, which is new or one. -/
def addItem (k : String) (own : Entries → Option Entries) (entries : Entries) : Option Entries :=
  match entries.lookup k with
  | none => do return Assoc.put k (.tables [← own []]) entries
  | some (.tables items) => do return Assoc.put k (.tables (items ++ [← own []])) entries
  | _ => none

/-- Adds keys with their values in order. -/
def addValues (values : List (List String × Json)) (entries : Entries) : Option Entries :=
  values.foldlM (fun entries (path, value) => addValue value path entries) entries

end Entries
end SchemaGraph.Toml
