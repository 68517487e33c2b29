import SchemaGraph.PathName
import SchemaGraph.Schema.Text

/-! Types that map straight to a scalar schema. -/
namespace SchemaGraph

/-- The schema of a terminal type that a host declares. -/
structure TerminalSpec where
  type : SchemaType
  format : Option String := none
deriving DecidableEq, Inhabited, Repr

namespace TerminalSpec

def schema (t : TerminalSpec) : Schema := { type := some t.type, format := t.format }

def toJson (t : TerminalSpec) : Json :=
  .obj (("type", t.type.toJson) :: Json.field "format" .str t.format)

def shape : Json.RecordShape where
  keys := ["type", "format"]
  closed := true
  least := 1

def decode : Json.Decoder TerminalSpec := fun room j => do
  let f ← shape.fields room j
  return {
    type := ← f.required "type" SchemaType.decode
    format := ← f.optional "format" Json.Decoder.string }

end TerminalSpec

/-- Terminal types by name. -/
structure Terminals where
  table : List (String × Schema)
deriving Inhabited

namespace Terminals

/-- The builtin types, grouped by schema. -/
def builtinGroups : List (List String × Schema) :=
  [(["i8"], .withFormat .integer "int8"),
   (["i16"], .withFormat .integer "int16"),
   (["i32"], .withFormat .integer "int32"),
   (["i64"], .withFormat .integer "int64"),
   (["u8"], .withFormat .integer "uint8"),
   (["u16"], .withFormat .integer "uint16"),
   (["u32"], .withFormat .integer "uint32"),
   (["u64"], .withFormat .integer "uint64"),
   (["i128", "isize"], .ofType .integer),
   (["u128", "usize"], { type := some .integer, minimum := some .zero }),
   (["f32"], .withFormat .number "float"),
   (["f64"], .withFormat .number "double"),
   (["Decimal"], .withFormat .number "decimal"),
   (["bool"], .ofType .boolean),
   (["char"], .withFormat .string "char"),
   (["String", "str", "OsString", "PathBuf", "Path"], .ofType .string),
   (["Uuid"], .withFormat .string "uuid"),
   (["Url"], .withFormat .string "uri"),
   (["DateTime", "NaiveDateTime", "OffsetDateTime", "PrimitiveDateTime", "SystemTime"],
     .withFormat .string "date-time"),
   (["NaiveDate", "Date"], .withFormat .string "date"),
   (["NaiveTime", "Time"], .withFormat .string "time"),
   (["Duration"], .withFormat .string "duration"),
   (["IpAddr", "Ipv4Addr", "Ipv6Addr"], .withFormat .string "ip"),
   (["()"], .ofType .null)]

/-- The primitive types and the usual scalar types of libraries. -/
def builtin : Terminals where
  table := builtinGroups.flatMap (fun (names, schema) => names.map (·, schema))

def insert (t : Terminals) (name : String) (spec : TerminalSpec) : Terminals :=
  ⟨Assoc.put name spec.schema t.table⟩

/-- The builtin table with entries of a host over it. -/
def withExtra (extra : List (String × TerminalSpec)) : Terminals :=
  extra.foldl (fun t (name, spec) => t.insert name spec) builtin

/-- The schema of a name, found exactly or by its last segment. -/
def lookup (t : Terminals) (name : String) : Option Schema :=
  (t.table.lookup name).or (t.table.lookup (PathName.short name))

def isTerminal (t : Terminals) (name : String) : Bool := (t.lookup name).isSome

end Terminals
end SchemaGraph
