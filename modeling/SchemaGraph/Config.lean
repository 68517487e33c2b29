import SchemaGraph.FileTree
import SchemaGraph.Options
import SchemaGraph.Overrides.Map
import SchemaGraph.Overrides.Text
import SchemaGraph.Toml.Document

/-! Configuration files. -/
namespace SchemaGraph

/-- What a configuration file chooses. -/
structure Config where
  build : Options := {}
  /-- The title and the version of a document that hosts definitions. -/
  title : String := "API"
  version : String := "0.1.0"
  /-- Overrides of types by name. -/
  types : List (String × Overrides) := []
  /-- Overrides of members by the names of type and member. -/
  members : List (String × List (String × Overrides)) := []
deriving Inhabited

/-- Why a configuration file was not read. -/
inductive ConfigError where
  | unreadable (path : String)
  | invalid (path : String)
deriving DecidableEq, Inhabited, Repr

def ConfigError.message : ConfigError → String
  | unreadable path => "failed to read config " ++ path
  | invalid path => "invalid config " ++ path

namespace Config

def shape : Json.RecordShape where
  keys := ["build", "openapi", "types", "members"]
  closed := true
  least := 0

def infoShape : Json.RecordShape where
  keys := ["title", "version"]
  closed := true
  least := 0

open Json (Decoder) in
def decodeInfo : Json.Decoder (String × String) := fun room j => do
  let f ← infoShape.fields room j
  let unset : Config := {}
  return (← f.getOr "title" Decoder.string unset.title,
    ← f.getOr "version" Decoder.string unset.version)

open Json (Decoder) in
/-- A configuration; unknown keys are refused, missing ones take their defaults. -/
def decode : Json.Decoder Config := fun room j => do
  let f ← shape.fields room j
  let unset : Config := {}
  let (title, version) ← f.getOr "openapi" decodeInfo (unset.title, unset.version)
  return {
    build := ← f.getOr "build" Options.decode unset.build
    title
    version
    types := ← f.getOr "types" (Decoder.sortedMap Overrides.decode) []
    members := ← f.getOr "members" (Decoder.sortedMap (Decoder.sortedMap Overrides.decode)) [] }

/-- The configuration that a TOML text writes. -/
def ofText? (text : String) : Option Config := do
  decode (text.length + 2) (← Toml.parse? text)

def load (files : Files) (path : String) : Except ConfigError Config :=
  match files.text? path with
  | none => .error (.unreadable path)
  | some text =>
    match ofText? text with
    | some c => .ok c
    | none => .error (.invalid path)

def overrideMap (c : Config) : OverrideMap :=
  let types := c.types.foldl (fun m (owner, o) => m.insertType owner o) ({} : OverrideMap)
  c.members.foldl
    (fun m (owner, members) => members.foldl (fun m (name, o) => m.insertMember owner name o) m)
    types

end Config
end SchemaGraph
