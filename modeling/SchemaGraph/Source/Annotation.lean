import SchemaGraph.Source.Entries
import SchemaGraph.Overrides.Basic

/-! What the attributes of items, fields and variants say: their documentation, how they are serialized,
and overrides of their schemas. -/
namespace SchemaGraph.Source

/-- The lines of documentation, each without the blank that it starts with; nothing when there are
none. -/
def documentation? (attributes : List Attribute) : Option String :=
  let lines := attributes.filterMap (fun a =>
    match a.isNamed "doc", a.body with
    | true, .value (.constant (.token (.str s))) =>
      some (if s.startsWith " " then String.ofList (s.toList.drop 1) else s)
    | _, _ => none)
  if lines.isEmpty then none else some ("\n".intercalate lines)

/-- The parts of how a value is serialized that change its schema. -/
structure Serialization where
  rename : Option String := none
  renameAll : Option String := none
  /-- Whether the field or variant is left out. -/
  skip : Bool := false
  flatten : Bool := false
  /-- Whether an enumeration is not tagged from outside. -/
  tagged : Bool := false
deriving DecidableEq, Inhabited, Repr

namespace Serialization

/-- A name, which may be given for writing only. -/
def nameEntry (write : String → Serialization → Serialization) (s : Serialization)
    (ts : List Token) : Reading Serialization :=
  if Ahead.isPunct "=" ts then .take EntryValue.string write s ts
  else
    .nested
      (fun s path ts =>
        if path.ident? = some "serialize" then .take EntryValue.string write s ts
        else EntryValue.pass s ts)
      s ts

/-- One entry of an attribute. -/
def entry : EntryReader Serialization := fun s path ts =>
  match path.ident? with
  | some "rename" => nameEntry (fun name s => { s with rename := some name }) s ts
  | some "rename_all" => nameEntry (fun name s => { s with renameAll := some name }) s ts
  | some "skip" | some "skip_serializing" => { state := { s with skip := true }, rest := some ts }
  | some "flatten" => { state := { s with flatten := true }, rest := some ts }
  | some "tag" | some "content" | some "untagged" => EntryValue.pass { s with tagged := true } ts
  | _ => EntryValue.pass s ts

/-- What the attributes say about serialization. -/
def ofAttributes (attributes : List Attribute) : Serialization :=
  (attributes.filter (·.isNamed "serde")).foldl (Reading.ofAttribute entry) {}

end Serialization
end SchemaGraph.Source

namespace SchemaGraph.Overrides

open Source

/-- One entry of an attribute. A key that is no override ends the attribute, and a path is passed
over. -/
def attributeEntry : EntryReader Overrides := fun o path ts =>
  let text (write : String → Overrides) : Reading Overrides :=
    .take EntryValue.string (fun s _ => write s) o ts
  let flag (write : Bool → Overrides) : Reading Overrides :=
    .take EntryValue.flag (fun b _ => write b) o ts
  let number (write : Binary64 → Overrides) : Reading Overrides :=
    .take EntryValue.number (fun x _ => write x) o ts
  let count (write : Nat → Overrides) : Reading Overrides :=
    .take EntryValue.count (fun n _ => write n) o ts
  let json (write : Option Json → Overrides) : Reading Overrides :=
    .take EntryValue.json (fun j _ => write j) o ts
  match path.ident? with
  | none => EntryValue.pass o ts
  | some "format" => text (fun s => { o with format := some s })
  | some "pattern" => text (fun s => { o with pattern := some s })
  | some "description" => text (fun s => { o with description := some s })
  | some "title" => text (fun s => { o with title := some s })
  | some "rename" => text (fun s => { o with rename := some s })
  | some "example" => json (fun j => { o with example? := j })
  | some "default" => json (fun j => { o with defaultValue := j })
  | some "minimum" => number (fun x => { o with minimum := some x })
  | some "maximum" => number (fun x => { o with maximum := some x })
  | some "min_length" => count (fun n => { o with minLength := some n })
  | some "max_length" => count (fun n => { o with maxLength := some n })
  | some "min_items" => count (fun n => { o with minItems := some n })
  | some "max_items" => count (fun n => { o with maxItems := some n })
  | some "required" => flag (fun b => { o with required := some b })
  | some "hidden" => flag (fun b => { o with hidden := b })
  | some "read_only" => flag (fun b => { o with readOnly := some b })
  | some "write_only" => flag (fun b => { o with writeOnly := some b })
  | some "deprecated" => flag (fun b => { o with deprecated := some b })
  | some "nullable" => flag (fun b => { o with nullable := some b })
  | some _ => { state := o, rest := none }

/-- The overrides that attributes give. -/
def ofAttributes (attributes : List Attribute) : Overrides :=
  (attributes.filter (·.isNamed "schema")).foldl (Reading.ofAttribute attributeEntry) {}

end SchemaGraph.Overrides
