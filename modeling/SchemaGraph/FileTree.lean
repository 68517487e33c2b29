import SchemaGraph.Assoc

/-! Files by path, and source files below a directory. -/
namespace SchemaGraph

/-- What is asked of a file system. -/
structure Files where
  /-- The text of the file at a path; nothing when there is no such file, or it holds no text. -/
  text? : String → Option String
  /-- The source files below a directory, each as the names on the way to it, in the order of these;
  nothing when there is no such directory. -/
  sources? : String → Option (List (List String))

/-- A file with its bytes, or a directory with its entries sorted by name. -/
inductive FileTree where
  | file (bytes : ByteArray)
  | directory (entries : List (String × FileTree))
deriving Inhabited

namespace FileTree

def names (path : String) : List String := (path.toList.splitOn '/').map String.ofList

/-- Puts a file or a directory at the end of a path; directories on the way are made. -/
def insertAt (leaf : FileTree) : List String → List (String × FileTree) → List (String × FileTree)
  | [], entries => entries
  | [name], entries => Assoc.insert name leaf entries
  | name :: path, entries =>
    let inner :=
      match entries.lookup name with
      | some (directory es) => es
      | _ => []
    Assoc.insert name (directory (insertAt leaf path inner)) entries

/-- The directory of these files and directories. -/
def ofEntries (entries : List (String × FileTree)) : FileTree :=
  directory (entries.foldl (fun es (path, leaf) => insertAt leaf (names path) es) [])

/-- Follows names from a directory; `outer` are the directories around it. -/
def follow (outer : List FileTree) (here : FileTree) : List String → Option FileTree
  | [] => some here
  | name :: path =>
    match here with
    | file _ => none
    | directory entries =>
      if name = "" ∨ name = "." then follow outer here path
      else if name = ".." then
        match outer with
        | parent :: outer => follow outer parent path
        | [] => none
      else
        match entries.lookup name with
        | some next => follow (here :: outer) next path
        | none => none

/-- What stands at a path that starts in a directory. -/
def find? (root : FileTree) (path : String) : Option FileTree :=
  if path.isEmpty || path.startsWith "/" then none else follow [] root (names path)

def isSourceName (name : String) : Bool := name.endsWith ".rs" && 3 < name.length

mutual
/-- The source files in a tree, each as the names on the way to it. -/
def sourcesIn (name : String) : FileTree → List (List String)
  | file _ => if isSourceName name then [[name]] else []
  | directory entries => (sourcesOf entries).map (name :: ·)

def sourcesOf : List (String × FileTree) → List (List String)
  | [] => []
  | (name, t) :: entries => sourcesIn name t ++ sourcesOf entries
end

/-- The file system of a directory, in which all paths start. -/
def files (root : FileTree) : Files where
  text? path :=
    match root.find? path with
    | some (file bytes) => String.fromUTF8? bytes
    | _ => none
  sources? path :=
    match root.find? path with
    | some (directory entries) => some (sourcesOf entries)
    | _ => none

end FileTree
end SchemaGraph
