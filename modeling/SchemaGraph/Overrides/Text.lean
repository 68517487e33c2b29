import SchemaGraph.Overrides.Basic
import SchemaGraph.Schema.Text

/-! Overrides as JSON: every part is written, null when unset, and any may be missing when read. -/
namespace SchemaGraph.Overrides

open Json (fieldOrNull) in
def toJson (o : Overrides) : Json :=
  .obj [
    fieldOrNull "rename" .str o.rename,
    ("hidden", .bool o.hidden),
    fieldOrNull "required" .bool o.required,
    fieldOrNull "type" SchemaType.toJson o.type,
    fieldOrNull "format" .str o.format,
    fieldOrNull "title" .str o.title,
    fieldOrNull "description" .str o.description,
    fieldOrNull "pattern" .str o.pattern,
    fieldOrNull "example" id o.example?,
    fieldOrNull "default" id o.defaultValue,
    fieldOrNull "minimum" .float o.minimum,
    fieldOrNull "maximum" .float o.maximum,
    fieldOrNull "exclusive_minimum" .bool o.exclusiveMinimum,
    fieldOrNull "exclusive_maximum" .bool o.exclusiveMaximum,
    fieldOrNull "min_length" Json.ofNat o.minLength,
    fieldOrNull "max_length" Json.ofNat o.maxLength,
    fieldOrNull "min_items" Json.ofNat o.minItems,
    fieldOrNull "max_items" Json.ofNat o.maxItems,
    fieldOrNull "allowable_values" Json.arr o.allowableValues,
    fieldOrNull "nullable" .bool o.nullable,
    fieldOrNull "read_only" .bool o.readOnly,
    fieldOrNull "write_only" .bool o.writeOnly,
    fieldOrNull "deprecated" .bool o.deprecated]

def shape : Json.RecordShape where
  keys := ["rename", "hidden", "required", "type", "format", "title", "description", "pattern",
    "example", "default", "minimum", "maximum", "exclusive_minimum", "exclusive_maximum",
    "min_length", "max_length", "min_items", "max_items", "allowable_values", "nullable",
    "read_only", "write_only", "deprecated"]
  closed := false
  least := 0

open Json (Decoder) in
def decode : Json.Decoder Overrides := fun room j => do
  let f ← shape.fields room j
  return {
    rename := ← f.optional "rename" Decoder.string
    hidden := ← f.getOr "hidden" Decoder.bool false
    required := ← f.optional "required" Decoder.bool
    type := ← f.optional "type" SchemaType.decode
    format := ← f.optional "format" Decoder.string
    title := ← f.optional "title" Decoder.string
    description := ← f.optional "description" Decoder.string
    pattern := ← f.optional "pattern" Decoder.string
    example? := ← f.optional "example" Decoder.value
    defaultValue := ← f.optional "default" Decoder.value
    minimum := ← f.optional "minimum" Decoder.number
    maximum := ← f.optional "maximum" Decoder.number
    exclusiveMinimum := ← f.optional "exclusive_minimum" Decoder.bool
    exclusiveMaximum := ← f.optional "exclusive_maximum" Decoder.bool
    minLength := ← f.optional "min_length" Decoder.count
    maxLength := ← f.optional "max_length" Decoder.count
    minItems := ← f.optional "min_items" Decoder.count
    maxItems := ← f.optional "max_items" Decoder.count
    allowableValues := ← f.optional "allowable_values" (Decoder.list .value)
    nullable := ← f.optional "nullable" Decoder.bool
    readOnly := ← f.optional "read_only" Decoder.bool
    writeOnly := ← f.optional "write_only" Decoder.bool
    deprecated := ← f.optional "deprecated" Decoder.bool }

end SchemaGraph.Overrides
