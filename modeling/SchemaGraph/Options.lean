import SchemaGraph.Terminal

/-! Options of a build. -/
namespace SchemaGraph

/-- What a host chooses for a build. -/
structure Options where
  /-- The place of definitions: what every reference starts with. -/
  place : String := Reference.componentsPrefix
  /-- The most definitions of one build. -/
  maxDefinitions : Option Nat := none
  /-- The deepest nesting of types that is walked. -/
  maxNesting : Nat := 32
  /-- Terminal types over the builtin ones, sorted by name. -/
  terminals : List (String × TerminalSpec) := []
deriving DecidableEq, Inhabited, Repr

namespace Options

def toJson (o : Options) : Json :=
  .obj [("ref_prefix", .str o.place), Json.fieldOrNull "max_definitions" Json.ofNat o.maxDefinitions,
    ("max_nesting", Json.ofNat o.maxNesting),
    ("terminals", .obj (o.terminals.map (fun (name, t) => (name, t.toJson))))]

def shape : Json.RecordShape where
  keys := ["ref_prefix", "max_definitions", "max_nesting", "terminals"]
  closed := true
  least := 0

open Json (Decoder) in
/-- Options of JSON; unknown keys are refused, missing ones take their defaults. -/
def decode : Json.Decoder Options := fun room j => do
  let f ← shape.fields room j
  let unset : Options := {}
  return {
    place := ← f.getOr "ref_prefix" Decoder.string unset.place
    maxDefinitions := ← f.optional "max_definitions" Decoder.count
    maxNesting := ← f.getOr "max_nesting" Decoder.count unset.maxNesting
    terminals := ← f.getOr "terminals" (Decoder.sortedMap TerminalSpec.decode) [] }

end Options
end SchemaGraph
