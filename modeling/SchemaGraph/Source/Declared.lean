import SchemaGraph.Source.Annotation
import SchemaGraph.Source.TypeOf
import SchemaGraph.Text.Words
import SchemaGraph.Declaration

/-! The declarations that structs and enumerations stand for. -/
namespace SchemaGraph.Source

/-- A name without the mark of a raw identifier. -/
def bareName (name : String) : String :=
  if name.startsWith "r#" then String.ofList (name.toList.drop 2) else name

/-- The overrides of an item: its documentation, and what its attributes give. -/
def itemOverrides (attributes : List Attribute) : Overrides :=
  { description := documentation? attributes : Overrides }.merge (.ofAttributes attributes)

/-- A field as a member, its property name given by itself or by the rule of its struct. -/
def Field.member (f : Field) (params : List String) (rule : Option String) : Member :=
  let name := bareName f.name
  let property := (Serialization.ofAttributes f.attributes).rename.getD (Text.renameField name rule)
  let rename := if property = name then none else some property
  let declared : Overrides := { rename, description := documentation? f.attributes }
  { name
    type := f.type.toTypeExpr params
    overrides := declared.merge (.ofAttributes f.attributes) }

/-- The declaration of a struct with named fields. A flattened field is a supertype, a skipped one is
left out, and the default of a parameter is its bound. -/
def StructItem.declaration? (s : StructItem) : Option Declaration :=
  match s.fields with
  | .named fields =>
    let params := s.params.map GenericParam.name
    let rule := (Serialization.ofAttributes s.attributes).renameAll
    let kept := fields.filter (fun f => !(Serialization.ofAttributes f.attributes).skip)
    let (flat, own) := kept.partition (fun f => (Serialization.ofAttributes f.attributes).flatten)
    some
      { name := bareName s.name
        params := s.params.map (fun p =>
          { name := p.name, bound := p.default?.map (·.toTypeExpr params) })
        members := own.map (·.member params rule)
        supertypes := flat.map (fun f => f.type.toTypeExpr params)
        overrides := itemOverrides s.attributes }
  | .unnamed | .unit => none

/-- The value of a variant, unless it is skipped. -/
def Variant.value? (v : Variant) (rule : Option String) : Option String :=
  let form := Serialization.ofAttributes v.attributes
  if form.skip then none else some (form.rename.getD (Text.renameField v.name rule))

/-- The declaration of an enumeration without data that is tagged from outside. -/
def EnumItem.declaration? (e : EnumItem) : Option Declaration :=
  let form := Serialization.ofAttributes e.attributes
  let hasData := e.variants.any (fun v => !(v.fields matches .unit))
  if form.tagged || hasData then none
  else
    some
      { name := bareName e.name
        kind := .enumeration (e.variants.filterMap (·.value? form.renameAll))
        overrides := itemOverrides e.attributes }

end SchemaGraph.Source
