import SchemaGraph.CommandLine
import SchemaGraph.Config
import SchemaGraph.Document
import SchemaGraph.Json.Writer
import SchemaGraph.Source.Files

/-! From sources and roots to a document. -/
namespace SchemaGraph

/-- Why no document was made. -/
inductive CompileError where
  | config (cause : ConfigError)
  | directory (cause : DirectoryError)
  | file (path : String) (cause : SourceError)
  /-- A root that is no type. -/
  | root (text : String)
deriving DecidableEq, Inhabited, Repr

def CompileError.messages : CompileError → List String
  | config cause => [cause.message]
  | directory cause => cause.messages
  | file path cause => DirectoryError.ofFile path cause
  | root text => ["Invalid root type `" ++ text ++ "`", (SourceError.malformed text).message]

namespace CommandLine

/-- The configuration that is asked for, or the default one. -/
def loadConfig (c : CommandLine) (files : Files) : Except CompileError Config :=
  match c.config with
  | none => .ok {}
  | some path => (Config.load files path).mapError .config

/-- The declarations of all sources: those of the directory, then file by file. -/
def loadIndex (c : CommandLine) (files : Files) : Except CompileError Index := do
  let index ←
    match c.directory with
    | none => pure Index.standard
    | some path =>
      match Index.standard.addDirectory files path with
      | (i, .ok _) => pure i
      | (_, .error cause) => throw (.directory cause)
  c.files.foldlM
    (fun i path => ((i.addFile files "" path).map Prod.fst).mapError (.file path)) index

def rootTypes (c : CommandLine) : Except CompileError (List TypeExpr) :=
  c.roots.mapM (fun text =>
    match TypeExpr.ofSource? text [] with
    | some t => .ok t
    | none => .error (.root text))

/-- The document of the roots, by itself or hosted. -/
def compile (c : CommandLine) (files : Files) : Except CompileError Json := do
  let config ← c.loadConfig files
  let index ← c.loadIndex files
  let roots ← c.rootTypes
  let builder := { Builder.withOptions { index } config.build with overrides := config.overrideMap }
  let set := builder.buildMany roots
  return if c.openApi then (set.toOpenApi config.title config.version).toJson else set.toJson

def compileText (c : CommandLine) (files : Files) : Except CompileError String :=
  (c.compile files).map Json.pretty

end CommandLine
end SchemaGraph
