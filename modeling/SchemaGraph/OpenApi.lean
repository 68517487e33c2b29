import SchemaGraph.Schema.Text

/-! The document that hosts definitions. -/
namespace SchemaGraph

/-- The named schemas of a document, sorted by name. -/
structure Components where
  schemas : Option (List (String × Schema)) := none
deriving Inhabited

namespace Components

/-- No definitions leave the schemas unset. -/
def ofSchemas (schemas : List (String × Schema)) : Components :=
  ⟨if schemas.isEmpty then none else some schemas⟩

def toJson (c : Components) : Json :=
  .obj (Json.field "schemas" (fun ss => .obj (ss.map (fun (n, s) => (n, s.toJson)))) c.schemas)

def shape : Json.RecordShape where
  keys := ["schemas"]
  closed := false
  least := 1

def decode : Json.Decoder Components := fun room j => do
  let f ← shape.fields room j
  return ⟨← f.optional "schemas" (Json.Decoder.sortedMap Schema.decode)⟩

end Components

/-- Schemes that have to be met together, with the scopes of each, sorted by name. -/
structure SecurityRequirement where
  schemes : List (String × List String) := []
deriving DecidableEq, Inhabited, Repr

namespace SecurityRequirement

/-- Requires a scheme; no scopes are the empty list. -/
def addScheme (r : SecurityRequirement) (name : String) (scopes : Option (List String) := none) :
    SecurityRequirement :=
  ⟨Assoc.insert name (scopes.getD []) r.schemes⟩

def scopes? (r : SecurityRequirement) (name : String) : Option (List String) :=
  r.schemes.lookup name

def isEmpty (r : SecurityRequirement) : Bool := r.schemes.isEmpty

def toJson (r : SecurityRequirement) : Json :=
  .obj (r.schemes.map (fun (n, ss) => (n, Json.ofStrings ss)))

def decode : Json.Decoder SecurityRequirement := fun room j => do
  return ⟨← Json.Decoder.sortedMap (Json.Decoder.list .string) room j⟩

end SecurityRequirement

inductive OpenApiVersion where
  | v3_0_3
  | v3_1_0
deriving DecidableEq, Inhabited, Repr

namespace OpenApiVersion

def words : List (String × OpenApiVersion) := [("3.0.3", .v3_0_3), ("3.1.0", .v3_1_0)]

def word : OpenApiVersion → String
  | v3_0_3 => "3.0.3"
  | v3_1_0 => "3.1.0"

end OpenApiVersion

structure Info where
  title : String
  version : String
  description : Option String := none
deriving DecidableEq, Inhabited, Repr

namespace Info

def toJson (i : Info) : Json :=
  .obj ([("title", .str i.title), ("version", .str i.version)] ++
    Json.field "description" .str i.description)

def shape : Json.RecordShape where
  keys := ["title", "version", "description"]
  closed := false
  least := 3

open Json (Decoder) in
def decode : Json.Decoder Info := fun room j => do
  let f ← shape.fields room j
  return {
    title := ← f.required "title" Decoder.string
    version := ← f.required "version" Decoder.string
    description := ← f.optional "description" Decoder.string }

end Info

/-- A document; its paths are kept as they are. -/
structure OpenApi where
  openapi : OpenApiVersion := .v3_1_0
  info : Info
  paths : List (String × Json) := []
  components : Option Components := none
  /-- Requirements of which any one has to be met. -/
  security : Option (List SecurityRequirement) := none
deriving Inhabited

namespace OpenApi

def new (title version : String) : OpenApi := { info := { title, version } }

/-- Adds schemas; those that the document already has win. -/
def mergeComponents (d : OpenApi) (incoming : Components) : OpenApi :=
  match incoming.schemas with
  | none => d
  | some schemas =>
    let present := (d.components.bind Components.schemas).getD []
    let merged := schemas.foldl
      (fun m (n, s) => if (m.lookup n).isSome then m else Assoc.insert n s m) present
    { d with components := some ⟨some merged⟩ }

def withSchemas (d : OpenApi) (schemas : List (String × Schema)) : OpenApi :=
  d.mergeComponents (.ofSchemas schemas)

def addSecurity (d : OpenApi) (r : SecurityRequirement) : OpenApi :=
  { d with security := some (d.security.getD [] ++ [r]) }

def toJson (d : OpenApi) : Json :=
  .obj ([("openapi", .str d.openapi.word), ("info", d.info.toJson), ("paths", .obj d.paths)] ++
    Json.field "components" Components.toJson d.components ++
    Json.field "security" (fun rs => .arr (rs.map SecurityRequirement.toJson)) d.security)

def shape : Json.RecordShape where
  keys := ["openapi", "info", "paths", "components", "security"]
  closed := false
  least := 5

open Json (Decoder) in
def decode : Json.Decoder OpenApi := fun room j => do
  let f ← shape.fields room j
  return {
    openapi := ← f.required "openapi" (Decoder.word OpenApiVersion.words)
    info := ← f.required "info" Info.decode
    paths := ← f.getOr "paths" (Decoder.sortedMap .value) []
    components := ← f.optional "components" Components.decode
    security := ← f.optional "security" (Decoder.list SecurityRequirement.decode) }

end OpenApi
end SchemaGraph
