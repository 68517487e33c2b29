import SchemaGraph.FileTree
import SchemaGraph.Source.Module

/-! Source files in an index, each as the module that its place implies. -/
namespace SchemaGraph

/-- Why a source was not read. -/
inductive SourceError where
  | unreadable (path : String)
  /-- A text of this origin is no source text. -/
  | malformed (origin : String)
deriving DecidableEq, Inhabited, Repr

def SourceError.message : SourceError → String
  | unreadable path => "failed to read " ++ path
  | malformed origin => "failed to parse " ++ origin

/-- Why a directory was not read to its end. -/
inductive DirectoryError where
  | unlisted (path : String)
  | file (path : String) (cause : SourceError)
deriving DecidableEq, Inhabited, Repr

namespace DirectoryError

/-- The message for a file that was not read. -/
def ofFile (path : String) (cause : SourceError) : List String :=
  ["Failed to index " ++ path, cause.message]

/-- The messages of an error, the outermost first. -/
def messages : DirectoryError → List String
  | unlisted path => ["Failed to read directory: " ++ path]
  | file path cause => ofFile path cause

end DirectoryError

namespace Files

/-- The path of a file below a directory. -/
def below (directory : String) (names : List String) : String :=
  let rest := "/".intercalate names
  if directory.endsWith "/" then directory ++ rest else directory ++ "/" ++ rest

def sourcePaths (files : Files) (directory : String) : Except DirectoryError (List String) :=
  match files.sources? directory with
  | some all => .ok (all.map (below directory))
  | none => .error (.unlisted directory)

end Files

namespace Source

/-- A file name without its extension. -/
def stem (name : String) : String :=
  if FileTree.isSourceName name then String.ofList (name.toList.dropLast.dropLast.dropLast) else name

/-- The path of the module in a file below an indexed directory. A file of the root's names is the root,
and one named for its directory stands for it. -/
def modulePath (names : List String) : String :=
  let segments := (names.dropLast ++ (names.getLast?.map stem).toList).filter
    (fun s => s ≠ "." && s ≠ "..")
  let named :=
    match segments with
    | ["lib"] | ["main"] => []
    | segments => if segments.getLast? = some "mod" then segments.dropLast else segments
  "::".intercalate named

end Source

namespace Index

/-- Adds a source text of an origin as the module at a path, and counts its declarations. -/
def addText (i : Index) (origin module text : String) : Except SourceError (Index × Nat) :=
  match i.addSource? module text with
  | some r => .ok r
  | none => .error (.malformed origin)

/-- Adds a file as the module at a path, and counts its declarations. -/
def addFile (i : Index) (files : Files) (module path : String) :
    Except SourceError (Index × Nat) :=
  match files.text? path with
  | some text => i.addText path module text
  | none => .error (.unreadable path)

/-- Adds files below a directory up to the first one that is not read. -/
def addFiles (files : Files) (directory : String) (i : Index) (count : Nat) :
    List (List String) → Index × Except DirectoryError Nat
  | [] => (i, .ok count)
  | names :: rest =>
    let path := Files.below directory names
    match i.addFile files (Source.modulePath names) path with
    | .ok (i, n) => addFiles files directory i (count + n) rest
    | .error cause => (i, .error (.file path cause))

/-- Adds all source files below a directory and counts their declarations. What is read before a file
that is not read stays. -/
def addDirectory (i : Index) (files : Files) (directory : String) :
    Index × Except DirectoryError Nat :=
  match files.sources? directory with
  | some all => addFiles files directory i 0 all
  | none => (i, .error (.unlisted directory))

end Index
end SchemaGraph
