import SchemaGraph.Compile

/-! The program: schemas of source files from the command line. -/
namespace SchemaGraph

/-- Runs an action; nothing when it fails. -/
def attemptIO {α : Type} (action : IO α) : IO (Option α) := do
  match ← action.toBaseIO with
  | .ok a => return some a
  | .error _ => return none

/-- The lines of a stream. -/
partial def readLines (stream : IO.FS.Stream) : IO (List String) := do
  let line ← stream.getLine
  if line.isEmpty then return []
  return String.ofList (line.toList.filter (fun c => c ≠ '\n' && c ≠ '\r')) :: (← readLines stream)

/-- The tree of a directory, the files below which are listed on standard input. -/
def readTree (directory : String) : IO (Option FileTree) := do
  if (← attemptIO (IO.FS.Handle.mk directory .read)).isNone then return none
  let start := if directory.endsWith "/" then directory else directory ++ "/"
  let mut files := []
  for path in ← readLines (← IO.getStdin) do
    if path.startsWith start then
      if let some bytes ← attemptIO (IO.FS.readBinFile path) then
        files := (String.ofList (path.toList.drop start.length), FileTree.file bytes) :: files
  return some (.ofEntries files.reverse)

def readFiles (c : CommandLine) : IO Files := do
  let mut texts := []
  for path in c.config.toList ++ c.files do
    if let some bytes ← attemptIO (IO.FS.readBinFile path) then
      texts := (path, String.fromUTF8? bytes) :: texts
  let mut sources := none
  if let some directory := c.directory then
    if let some tree ← readTree directory then
      sources := tree.files.sources? "."
      for names in sources.getD [] do
        let text? := tree.files.text? ("/".intercalate names)
        texts := (Files.below directory names, text?) :: texts
  return {
    text? := fun path => (texts.lookup path).join
    sources? := fun path => if c.directory = some path then sources else none }

def report (messages : List String) : IO UInt32 := do
  IO.eprintln ("\n  caused by: ".intercalate messages)
  return 1

def answer (c : CommandLine) : IO UInt32 := do
  match c.compileText (← readFiles c) with
  | .error e => report e.messages
  | .ok text =>
    match c.output with
    | none => IO.println text
    | some path => IO.FS.writeFile path text
    return 0

end SchemaGraph

open SchemaGraph in
def main (args : List String) : IO UInt32 := do
  match CommandLine.ofArguments args with
  | .ok c => answer c
  | .error .displayHelp =>
    IO.print CommandLine.usage
    return 0
  | .error .displayVersion =>
    IO.println "schema-graph 0.1.0"
    return 0
  | .error e =>
    IO.eprintln ("error: " ++ e.word)
    IO.eprint CommandLine.usage
    return 2
