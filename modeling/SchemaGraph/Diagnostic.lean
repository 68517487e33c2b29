import SchemaGraph.Json.Basic

/-! Records of what a build could not express; none of them ends it. -/
namespace SchemaGraph

inductive Severity where
  | info
  | warning
deriving DecidableEq, Inhabited, Repr

namespace Severity

def word : Severity → String
  | info => "info"
  | warning => "warning"

end Severity

/-- What a diagnostic is about. -/
inductive DiagnosticCode where
  /-- A type that is neither terminal nor of a known kind nor declared. -/
  | unknownType
  /-- A type variable without binding and bound. -/
  | unresolvedVariable
  /-- Two types whose definitions ask for one name. -/
  | referenceNameCollision
  /-- A type past the most definitions of a build. -/
  | definitionLimitReached
  /-- A type that would be instantiated deeper at every expansion. -/
  | growingInstantiation
  /-- A type nested deeper than is walked. -/
  | nestingLimitReached
deriving DecidableEq, Inhabited, Repr

namespace DiagnosticCode

/-- The short identifier. -/
def id : DiagnosticCode → String
  | unknownType => "W001"
  | unresolvedVariable => "W002"
  | referenceNameCollision => "W003"
  | definitionLimitReached => "W004"
  | growingInstantiation => "W005"
  | nestingLimitReached => "W006"

def word : DiagnosticCode → String
  | unknownType => "unknown_type"
  | unresolvedVariable => "unresolved_variable"
  | referenceNameCollision => "reference_name_collision"
  | definitionLimitReached => "definition_limit_reached"
  | growingInstantiation => "growing_instantiation"
  | nestingLimitReached => "nesting_limit_reached"

def all : List DiagnosticCode :=
  [unknownType, unresolvedVariable, referenceNameCollision, definitionLimitReached,
   growingInstantiation, nestingLimitReached]

def ofWord? (w : String) : Option DiagnosticCode := all.find? (·.word == w)

def severity : DiagnosticCode → Severity
  | unresolvedVariable | referenceNameCollision => .info
  | _ => .warning

end DiagnosticCode

structure Diagnostic where
  code : DiagnosticCode
  typeName : String
  message : String
deriving DecidableEq, Inhabited, Repr

namespace Diagnostic

def severity (d : Diagnostic) : Severity := d.code.severity

def isWarning (d : Diagnostic) : Bool := d.severity = .warning

/-- One line for a reader. -/
def line (d : Diagnostic) : String := "[" ++ d.code.id ++ "] " ++ d.typeName ++ ": " ++ d.message

def toJson (d : Diagnostic) : Json :=
  .obj [("code", .str d.code.word), ("type_name", .str d.typeName), ("message", .str d.message)]

end Diagnostic

/-- The diagnostics of a build in order; one for each code and type name. -/
abbrev Diagnostics := List Diagnostic

namespace Diagnostics

/-- Adds a diagnostic unless there is one with its code and type name. -/
def record (ds : Diagnostics) (code : DiagnosticCode) (typeName message : String) : Diagnostics :=
  if ds.any (fun d => d.code = code ∧ d.typeName = typeName) then ds
  else ds ++ [⟨code, typeName, message⟩]

def warnings (ds : Diagnostics) : Diagnostics := ds.filter Diagnostic.isWarning

def withCode (ds : Diagnostics) (code : DiagnosticCode) : Diagnostics :=
  ds.filter (fun d => d.code = code)

end Diagnostics
end SchemaGraph
