import SchemaGraph.Json.Basic

/-! Schema nodes: inline, or references to named definitions. -/
namespace SchemaGraph

inductive SchemaType where
  | string
  | number
  | integer
  | boolean
  | array
  | object
  | null
deriving DecidableEq, Inhabited, Repr

/-- The keywords of a node that hold no nodes themselves. -/
structure Keywords where
  /-- The pointer of a reference. Its siblings describe the place where it stands. -/
  ref : Option String := none
  type : Option SchemaType := none
  format : Option String := none
  title : Option String := none
  description : Option String := none
  defaultValue : Option Json := none
  example? : Option Json := none
  minimum : Option Binary64 := none
  maximum : Option Binary64 := none
  exclusiveMinimum : Option Bool := none
  exclusiveMaximum : Option Bool := none
  multipleOf : Option Binary64 := none
  minLength : Option Nat := none
  maxLength : Option Nat := none
  pattern : Option String := none
  minItems : Option Nat := none
  maxItems : Option Nat := none
  uniqueItems : Option Bool := none
  required : Option (List String) := none
  enumValues : Option (List Json) := none
  nullable : Option Bool := none
  readOnly : Option Bool := none
  writeOnly : Option Bool := none
  deprecated : Option Bool := none
deriving DecidableEq, Inhabited, Repr

structure Schema extends Keywords where
  /-- The element schema of an array. -/
  items : Option Schema := none
  /-- The members of an object in declaration order. -/
  properties : Option (List (String × Schema)) := none
  /-- The value schema of an object that is a map. -/
  additionalProperties : Option Schema := none
deriving Inhabited

namespace Schema

/-- The node without keywords. -/
def empty : Schema := {}

def ofType (type : SchemaType) : Schema := { type := some type }

def withFormat (type : SchemaType) (format : String) : Schema :=
  { type := some type, format := some format }

def arrayOf (items : Schema) : Schema := { type := some .array, items := some items }

/-- An object that has no properties yet. -/
def object : Schema := { type := some .object, properties := some [] }

/-- An object whose values all have one schema. -/
def mapOf (values : Schema) : Schema :=
  { type := some .object, additionalProperties := some values }

/-- A string out of a list of values. -/
def enumeration (values : List String) : Schema :=
  { type := some .string, enumValues := some (values.map Json.str) }

def reference (pointer : String) : Schema := { ref := some pointer }

def isReference (s : Schema) : Bool := s.ref.isSome

/-- An array of `dims` dimensions around a node. -/
def nest (items : Schema) : Nat → Schema
  | 0 => items
  | n + 1 => arrayOf (nest items n)

/-- `base` with every keyword that `top` sets. -/
def overlay (base top : Schema) : Schema where
  ref := top.ref.or base.ref
  type := top.type.or base.type
  format := top.format.or base.format
  title := top.title.or base.title
  description := top.description.or base.description
  defaultValue := top.defaultValue.or base.defaultValue
  example? := top.example?.or base.example?
  minimum := top.minimum.or base.minimum
  maximum := top.maximum.or base.maximum
  exclusiveMinimum := top.exclusiveMinimum.or base.exclusiveMinimum
  exclusiveMaximum := top.exclusiveMaximum.or base.exclusiveMaximum
  multipleOf := top.multipleOf.or base.multipleOf
  minLength := top.minLength.or base.minLength
  maxLength := top.maxLength.or base.maxLength
  pattern := top.pattern.or base.pattern
  minItems := top.minItems.or base.minItems
  maxItems := top.maxItems.or base.maxItems
  uniqueItems := top.uniqueItems.or base.uniqueItems
  required := top.required.or base.required
  enumValues := top.enumValues.or base.enumValues
  nullable := top.nullable.or base.nullable
  readOnly := top.readOnly.or base.readOnly
  writeOnly := top.writeOnly.or base.writeOnly
  deprecated := top.deprecated.or base.deprecated
  items := top.items.or base.items
  properties := top.properties.or base.properties
  additionalProperties := top.additionalProperties.or base.additionalProperties

theorem empty_overlay (s : Schema) : empty.overlay s = s := by
  cases s; simp [overlay, empty]

theorem overlay_empty (s : Schema) : s.overlay empty = s := by
  cases s; simp [overlay, empty]

theorem overlay_assoc (a b c : Schema) : (a.overlay b).overlay c = a.overlay (b.overlay c) := by
  simp [overlay, Option.or_assoc]

end Schema

structure Reference where
  pointer : String
deriving DecidableEq, Inhabited, Repr

namespace Reference

/-- Where definitions stand in a document, unless options say otherwise. -/
def componentsPrefix : String := "#/components/schemas/"

/-- The definition of a name below a place in the document. -/
def below (place name : String) : Reference := ⟨place ++ name⟩

/-- The text after the last slash. -/
def lastPart (pointer : String) : String :=
  String.ofList (pointer.toList.reverse.takeWhile (· ≠ '/')).reverse

def name (r : Reference) : String := lastPart r.pointer

end Reference

/-- The name of the definition a reference node points to. -/
def Schema.referenceName? (s : Schema) : Option String := s.ref.map Reference.lastPart

end SchemaGraph
