/-! The arguments of the program. -/
namespace SchemaGraph

/-- What a call of the program asks for. -/
structure CommandLine where
  /-- The directory whose source files are read. -/
  directory : Option String := none
  files : List String := []
  roots : List String := []
  config : Option String := none
  /-- Whether the definitions are hosted by a document. -/
  openApi : Bool := false
  /-- The file that is written; nothing for standard output. -/
  output : Option String := none
  verbose : Bool := false
deriving DecidableEq, Inhabited, Repr

/-- Why arguments are no call of the program, or ask only about the program itself. -/
inductive UsageError where
  | unknownArgument
  /-- A value that is missing or empty. -/
  | invalidValue
  /-- An argument that is given twice. -/
  | argumentConflict
  /-- A value where none is taken. -/
  | tooManyValues
  | missingRequiredArgument
  | displayHelp
  | displayVersion
deriving DecidableEq, Inhabited, Repr

def UsageError.word : UsageError → String
  | unknownArgument => "UnknownArgument"
  | invalidValue => "InvalidValue"
  | argumentConflict => "ArgumentConflict"
  | tooManyValues => "TooManyValues"
  | missingRequiredArgument => "MissingRequiredArgument"
  | displayHelp => "DisplayHelp"
  | displayVersion => "DisplayVersion"

namespace CommandLine

/-- Arguments with a value. -/
inductive Setting where
  | directory
  | file
  | root
  | config
  | output
deriving DecidableEq, Inhabited, Repr

/-- Arguments without a value. -/
inductive Flag where
  | openApi
  | verbose
  | help
  | version
deriving DecidableEq, Inhabited, Repr

def long? : String → Option (Setting ⊕ Flag)
  | "dir" => some (.inl .directory)
  | "file" => some (.inl .file)
  | "root" => some (.inl .root)
  | "config" => some (.inl .config)
  | "output" => some (.inl .output)
  | "openapi" => some (.inr .openApi)
  | "verbose" => some (.inr .verbose)
  | "help" => some (.inr .help)
  | "version" => some (.inr .version)
  | _ => none

def short? : Char → Option (Setting ⊕ Flag)
  | 'c' => some (.inl .config)
  | 'o' => some (.inl .output)
  | 'v' => some (.inr .verbose)
  | 'h' => some (.inr .help)
  | 'V' => some (.inr .version)
  | _ => none

/-- Writes a value that may be given once and is the path of something. -/
def setOnce (old : Option String) (value : String) : Except UsageError (Option String) :=
  if old.isSome then .error .argumentConflict
  else if value.isEmpty then .error .invalidValue
  else .ok (some value)

def set (c : CommandLine) (s : Setting) (value : String) : Except UsageError CommandLine :=
  match s with
  | .directory => do return { c with directory := ← setOnce c.directory value }
  | .config => do return { c with config := ← setOnce c.config value }
  | .output => do return { c with output := ← setOnce c.output value }
  | .file => if value.isEmpty then .error .invalidValue else .ok { c with files := c.files ++ [value] }
  | .root => .ok { c with roots := c.roots ++ [value] }

def mark (c : CommandLine) : Flag → Except UsageError CommandLine
  | .openApi => if c.openApi then .error .argumentConflict else .ok { c with openApi := true }
  | .verbose => if c.verbose then .error .argumentConflict else .ok { c with verbose := true }
  | .help => .error .displayHelp
  | .version => .error .displayVersion

/-- Arguments as they are read: the last one is written when the next one is known, and may still wait
for its value. -/
structure Progress where
  read : CommandLine := {}
  waiting : Option (Setting × Option String) := none

namespace Progress

/-- Writes the argument that waits. -/
def settle (p : Progress) : Except UsageError CommandLine :=
  match p.waiting with
  | none => .ok p.read
  | some (_, none) => .error .invalidValue
  | some (s, some value) => p.read.set s value

/-- An argument, with a value that is attached to it. -/
def enter (p : Progress) (s : Setting) : Option String → Except UsageError Progress
  | none => do return { read := ← p.settle, waiting := some (s, none) }
  | some value => do return { read := ← (← p.settle).set s value }

def flag (p : Progress) (f : Flag) : Except UsageError Progress := do
  return { read := ← (← p.settle).mark f }

/-- Letters in one argument; the rest after one that takes a value is its value. -/
def letters (p : Progress) : List Char → Except UsageError Progress
  | [] => .ok p
  | c :: cs =>
    match short? c with
    | none => .error .unknownArgument
    | some (.inr f) => do letters (← p.flag f) cs
    | some (.inl s) =>
      match cs with
      | [] => p.enter s none
      | '=' :: value => p.enter s (some (String.ofList value))
      | value => p.enter s (some (String.ofList value))

/-- A name with what may be attached to it. -/
def named (p : Progress) (cs : List Char) : Except UsageError Progress :=
  let name := String.ofList (cs.takeWhile (· ≠ '='))
  let attached :=
    match cs.dropWhile (· ≠ '=') with
    | _ :: value => some (String.ofList value)
    | [] => none
  match long? name, attached with
  | none, _ => .error .unknownArgument
  | some (.inl s), value => p.enter s value
  | some (.inr _), some _ => .error .tooManyValues
  | some (.inr f), none => p.flag f

/-- The arguments one after the other. After two dashes there may be no more. -/
def arguments (p : Progress) : List String → Except UsageError CommandLine
  | [] => p.settle
  | arg :: rest =>
    match arg.toList with
    | ['-', '-'] => if rest.isEmpty then p.settle else .error .unknownArgument
    | '-' :: '-' :: cs => do arguments (← p.named cs) rest
    | '-' :: c :: cs => do arguments (← p.letters (c :: cs)) rest
    | _ =>
      match p.waiting with
      | some (s, none) => arguments { p with waiting := some (s, some arg) } rest
      | _ => .error .unknownArgument

end Progress

/-- The call that arguments make: with a root, and with sources. -/
def ofArguments (args : List String) : Except UsageError CommandLine := do
  let c ← Progress.arguments {} args
  if c.roots.isEmpty || (c.directory.isNone && c.files.isEmpty) then throw .missingRequiredArgument
  return c

/-- How the program is called. -/
def usage : String :=
  "Usage: schema-graph [--dir DIR] [--file FILE]... --root TYPE [--root TYPE]...\n" ++
  "                    [-c|--config FILE] [--openapi] [-o|--output FILE] [-v|--verbose]\n" ++
  "\n" ++
  "With --dir, the files below DIR are listed on standard input, one in a line.\n"

end CommandLine
end SchemaGraph
