import SchemaGraph.Schema.Basic

/-! Partial schemas laid over inferred ones. -/
namespace SchemaGraph

/-- What a declaration or a host says about a member or a type; unset parts leave the inferred ones. -/
structure Overrides where
  /-- The property name in place of the member name. -/
  rename : Option String := none
  /-- Whether the member is left out of its owner. -/
  hidden : Bool := false
  /-- Whether the owner lists the member as required. -/
  required : Option Bool := none
  type : Option SchemaType := none
  format : Option String := none
  title : Option String := none
  description : Option String := none
  pattern : Option String := none
  example? : Option Json := none
  defaultValue : Option Json := none
  minimum : Option Binary64 := none
  maximum : Option Binary64 := none
  exclusiveMinimum : Option Bool := none
  exclusiveMaximum : Option Bool := none
  minLength : Option Nat := none
  maxLength : Option Nat := none
  minItems : Option Nat := none
  maxItems : Option Nat := none
  allowableValues : Option (List Json) := none
  nullable : Option Bool := none
  readOnly : Option Bool := none
  writeOnly : Option Bool := none
  deprecated : Option Bool := none
deriving DecidableEq, Inhabited, Repr

namespace Overrides

def isEmpty (o : Overrides) : Bool := o = {}

/-- Two layers as one: what `top` sets wins, and either layer hides. -/
def merge (base top : Overrides) : Overrides where
  rename := top.rename.or base.rename
  hidden := base.hidden || top.hidden
  required := top.required.or base.required
  type := top.type.or base.type
  format := top.format.or base.format
  title := top.title.or base.title
  description := top.description.or base.description
  pattern := top.pattern.or base.pattern
  example? := top.example?.or base.example?
  defaultValue := top.defaultValue.or base.defaultValue
  minimum := top.minimum.or base.minimum
  maximum := top.maximum.or base.maximum
  exclusiveMinimum := top.exclusiveMinimum.or base.exclusiveMinimum
  exclusiveMaximum := top.exclusiveMaximum.or base.exclusiveMaximum
  minLength := top.minLength.or base.minLength
  maxLength := top.maxLength.or base.maxLength
  minItems := top.minItems.or base.minItems
  maxItems := top.maxItems.or base.maxItems
  allowableValues := top.allowableValues.or base.allowableValues
  nullable := top.nullable.or base.nullable
  readOnly := top.readOnly.or base.readOnly
  writeOnly := top.writeOnly.or base.writeOnly
  deprecated := top.deprecated.or base.deprecated

/-- A layer with an optional one above it. -/
def mergeOption (base : Overrides) : Option Overrides → Overrides
  | none => base
  | some top => base.merge top

/-- Writes the parts that concern a node onto it. A type turns a reference into an inline node; the
name, the hiding and the requiredness of a member concern its owner. -/
def apply (o : Overrides) (s : Schema) : Schema :=
  { s with
    ref := if o.type.isSome then none else s.ref
    type := o.type.or s.type
    format := o.format.or s.format
    title := o.title.or s.title
    description := o.description.or s.description
    pattern := o.pattern.or s.pattern
    example? := o.example?.or s.example?
    defaultValue := o.defaultValue.or s.defaultValue
    minimum := o.minimum.or s.minimum
    maximum := o.maximum.or s.maximum
    exclusiveMinimum := o.exclusiveMinimum.or s.exclusiveMinimum
    exclusiveMaximum := o.exclusiveMaximum.or s.exclusiveMaximum
    minLength := o.minLength.or s.minLength
    maxLength := o.maxLength.or s.maxLength
    minItems := o.minItems.or s.minItems
    maxItems := o.maxItems.or s.maxItems
    enumValues := o.allowableValues.or s.enumValues
    nullable := o.nullable.or s.nullable
    readOnly := o.readOnly.or s.readOnly
    writeOnly := o.writeOnly.or s.writeOnly
    deprecated := o.deprecated.or s.deprecated }

end Overrides
end SchemaGraph
