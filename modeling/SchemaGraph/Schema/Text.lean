import SchemaGraph.Schema.Basic
import SchemaGraph.Json.Decode

/-! Schemas as JSON: keywords in a fixed order, properties in their own. -/
namespace SchemaGraph

namespace SchemaType

/-- The types with their words. -/
def words : List (String × SchemaType) :=
  [("string", .string), ("number", .number), ("integer", .integer), ("boolean", .boolean),
   ("array", .array), ("object", .object), ("null", .null)]

def word : SchemaType → String
  | string => "string"
  | number => "number"
  | integer => "integer"
  | boolean => "boolean"
  | array => "array"
  | object => "object"
  | null => "null"

def toJson (t : SchemaType) : Json := .str t.word

def decode : Json.Decoder SchemaType := .word words

theorem lookup_word (t : SchemaType) : words.lookup t.word = some t := by
  cases t <;> decide

end SchemaType

namespace Json

/-- A field that is left out when unset. -/
def field {α : Type} (key : String) (toJson : α → Json) : Option α → List (String × Json)
  | none => []
  | some x => [(key, toJson x)]

/-- A field that is null when unset. -/
def fieldOrNull {α : Type} (key : String) (toJson : α → Json) (x : Option α) : String × Json :=
  (key, (x.map toJson).getD .null)

def ofNat (n : Nat) : Json := .int n

def ofStrings (ss : List String) : Json := .arr (ss.map .str)

/-- Whole numbers below this magnitude are written as integers. -/
def wholeBelow : Nat := 9000000000000000

/-- A bound of a schema: an integer when whole and not too large. -/
def ofBound (x : Binary64) : Json :=
  match x.toInt? with
  | some n => if n.natAbs < wholeBelow then .int n else .float x
  | none => .float x

end Json

namespace Keywords

/-- The keywords before `items`. -/
def scalarFields (k : Keywords) : List (String × Json) :=
  Json.field "$ref" .str k.ref ++ Json.field "type" SchemaType.toJson k.type ++
  Json.field "format" .str k.format ++ Json.field "title" .str k.title ++
  Json.field "description" .str k.description ++ Json.field "default" id k.defaultValue ++
  Json.field "example" id k.example? ++ Json.field "minimum" Json.ofBound k.minimum ++
  Json.field "maximum" Json.ofBound k.maximum ++
  Json.field "exclusiveMinimum" .bool k.exclusiveMinimum ++
  Json.field "exclusiveMaximum" .bool k.exclusiveMaximum ++
  Json.field "multipleOf" Json.ofBound k.multipleOf ++
  Json.field "minLength" Json.ofNat k.minLength ++ Json.field "maxLength" Json.ofNat k.maxLength ++
  Json.field "pattern" .str k.pattern

/-- The keywords between `items` and `properties`. -/
def arrayFields (k : Keywords) : List (String × Json) :=
  Json.field "minItems" Json.ofNat k.minItems ++ Json.field "maxItems" Json.ofNat k.maxItems ++
  Json.field "uniqueItems" .bool k.uniqueItems

/-- The keywords after `additionalProperties`. -/
def flagFields (k : Keywords) : List (String × Json) :=
  Json.field "enum" Json.arr k.enumValues ++ Json.field "nullable" .bool k.nullable ++
  Json.field "readOnly" .bool k.readOnly ++ Json.field "writeOnly" .bool k.writeOnly ++
  Json.field "deprecated" .bool k.deprecated

end Keywords

namespace Schema

mutual
/-- The node as JSON; unset keywords are left out. -/
def toJson : Schema → Json
  | { toKeywords := k, items, properties, additionalProperties } =>
    .obj (k.scalarFields ++ childField "items" items ++ k.arrayFields ++
      propertiesField properties ++ Json.field "required" Json.ofStrings k.required ++
      childField "additionalProperties" additionalProperties ++ k.flagFields)

def childField (key : String) : Option Schema → List (String × Json)
  | none => []
  | some s => [(key, toJson s)]

def propertiesField : Option (List (String × Schema)) → List (String × Json)
  | none => []
  | some ps => [("properties", .obj (propertyFields ps))]

def propertyFields : List (String × Schema) → List (String × Json)
  | [] => []
  | (name, s) :: ps => (name, toJson s) :: propertyFields ps
end

/-- The keywords in order. -/
def shape : Json.RecordShape where
  keys := ["$ref", "type", "format", "title", "description", "default", "example", "minimum",
    "maximum", "exclusiveMinimum", "exclusiveMaximum", "multipleOf", "minLength", "maxLength",
    "pattern", "items", "minItems", "maxItems", "uniqueItems", "properties", "required",
    "additionalProperties", "enum", "nullable", "readOnly", "writeOnly", "deprecated"]
  closed := false
  least := 27

open Json (Decoder) in
/-- The keywords that hold no nodes. -/
def decodeKeywords (f : Json.Fields) : Option Keywords := do
  return {
    ref := ← f.optional "$ref" Decoder.string
    type := ← f.optional "type" SchemaType.decode
    format := ← f.optional "format" Decoder.string
    title := ← f.optional "title" Decoder.string
    description := ← f.optional "description" Decoder.string
    defaultValue := ← f.optional "default" Decoder.value
    example? := ← f.optional "example" Decoder.value
    minimum := ← f.optional "minimum" Decoder.number
    maximum := ← f.optional "maximum" Decoder.number
    exclusiveMinimum := ← f.optional "exclusiveMinimum" Decoder.bool
    exclusiveMaximum := ← f.optional "exclusiveMaximum" Decoder.bool
    multipleOf := ← f.optional "multipleOf" Decoder.number
    minLength := ← f.optional "minLength" Decoder.count
    maxLength := ← f.optional "maxLength" Decoder.count
    pattern := ← f.optional "pattern" Decoder.string
    minItems := ← f.optional "minItems" Decoder.count
    maxItems := ← f.optional "maxItems" Decoder.count
    uniqueItems := ← f.optional "uniqueItems" Decoder.bool
    required := ← f.optional "required" (Decoder.list .string)
    enumValues := ← f.optional "enum" (Decoder.list .value)
    nullable := ← f.optional "nullable" Decoder.bool
    readOnly := ← f.optional "readOnly" Decoder.bool
    writeOnly := ← f.optional "writeOnly" Decoder.bool
    deprecated := ← f.optional "deprecated" Decoder.bool }

/-- A schema of JSON that nests at most `room` objects and arrays. Unknown keywords are skipped. -/
def decode : Json.Decoder Schema
  | 0, _ => none
  | room + 1, j => do
    let f ← shape.fields (room + 1) j
    let keywords ← decodeKeywords f
    let child (key : String) : Option (Option Schema) :=
      match f.entries.lookup key with
      | none | some .null => some none
      | some c => (decode room c).map some
    let properties ←
      match f.entries.lookup "properties" with
      | none | some .null => some none
      | some (.obj fields) =>
        match room with
        | 0 => none
        | inner + 1 => do
          let entries ← fields.mapM (fun (k, c) => return (k, ← decode inner c))
          pure (some (entries.foldl (fun m (k, v) => Assoc.put k v m) []))
      | some _ => none
    return { keywords with
      items := ← child "items"
      properties
      additionalProperties := ← child "additionalProperties" }

end Schema

namespace Reference

def toJson (r : Reference) : Json := .obj [("$ref", .str r.pointer)]

end Reference
end SchemaGraph
