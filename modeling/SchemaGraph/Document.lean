import SchemaGraph.Build.Drain
import SchemaGraph.OpenApi

/-! The results of builds. -/
namespace SchemaGraph

/-- The schemas of the roots, and every definition that they reach. -/
structure DocumentSet where
  roots : List Schema
  definitions : List (String × Schema)
  diagnostics : Diagnostics
deriving Inhabited

/-- The schema of one root, and every definition that it reaches. -/
structure Document where
  root : Schema
  definitions : List (String × Schema)
  diagnostics : Diagnostics
deriving Inhabited

namespace BuildState

/-- Walks a root and expands what it leads to. -/
def addRoot (b : Builder) (root : TypeExpr) (s : BuildState) : Schema × BuildState :=
  let w := s.walk b root .empty
  (w.schema, w.state.drain b)

/-- Walks roots one after the other into the same definitions. -/
def addRoots (b : Builder) : List TypeExpr → BuildState → List Schema × BuildState
  | [], s => ([], s)
  | root :: roots, s =>
    let (schema, s) := s.addRoot b root
    let (schemas, s) := addRoots b roots s
    (schema :: schemas, s)

def finish (b : Builder) (root : TypeExpr) (s : BuildState) : Document :=
  let (schema, s) := s.addRoot b root
  { root := schema, definitions := s.registry.definitions, diagnostics := s.diagnostics }

end BuildState

namespace Builder

def build (b : Builder) (root : TypeExpr) : Document := (BuildState.init b).finish b root

/-- The document of several roots, which share their definitions. -/
def buildMany (b : Builder) (roots : List TypeExpr) : DocumentSet :=
  let (schemas, s) := (BuildState.init b).addRoots b roots
  { roots := schemas, definitions := s.registry.definitions, diagnostics := s.diagnostics }

end Builder

def definitionsJson (definitions : List (String × Schema)) : Json :=
  .obj (definitions.map (fun (name, s) => (name, s.toJson)))

namespace Document

def warnings (d : Document) : Diagnostics := d.diagnostics.warnings

def toComponents (d : Document) : Components := .ofSchemas d.definitions

def toOpenApi (d : Document) (title version : String) : OpenApi :=
  (OpenApi.new title version).withSchemas d.definitions

end Document

namespace DocumentSet

def toComponents (d : DocumentSet) : Components := .ofSchemas d.definitions

def toOpenApi (d : DocumentSet) (title version : String) : OpenApi :=
  (OpenApi.new title version).withSchemas d.definitions

def toJson (d : DocumentSet) : Json :=
  .obj [("roots", .arr (d.roots.map Schema.toJson)), ("definitions", definitionsJson d.definitions),
    ("diagnostics", .arr (d.diagnostics.map Diagnostic.toJson))]

end DocumentSet
end SchemaGraph
