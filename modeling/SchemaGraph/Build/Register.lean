import SchemaGraph.Build.State

/-! References to definitions, which are registered when they are first asked for. -/
namespace SchemaGraph

namespace TypeExpr

mutual
/-- The type with every indexed name replaced by the declared one, so that all spellings of a path
have one signature. -/
def canonicalize (i : Index) : TypeExpr → TypeExpr
  | named n as => named (((i.lookup n).map Declaration.name).getD n) (canonicalizeArgs i as)
  | array c d => arrayOf (canonicalize i c) d
  | t => t

def canonicalizeArgs (i : Index) : List TypeExpr → List TypeExpr
  | [] => []
  | a :: as => canonicalize i a :: canonicalizeArgs i as
end

end TypeExpr

/-- Why a type gets no definition. -/
inductive Refusal where
  | unknown
  | tooDeep (limit : Nat)
  | growing (ancestor : TypeExpr)
  | tooMany (limit : Nat)
deriving DecidableEq, Inhabited, Repr

namespace Refusal

def code : Refusal → DiagnosticCode
  | unknown => .unknownType
  | tooDeep _ => .nestingLimitReached
  | growing _ => .growingInstantiation
  | tooMany _ => .definitionLimitReached

def message : Refusal → String
  | unknown => "not found in the type index, emitted as an opaque object"
  | tooDeep limit =>
    "nested deeper than " ++ toString limit ++ " levels, emitted as an opaque object"
  | growing ancestor =>
    "expanding `" ++ ancestor.signature ++
      "` keeps producing deeper instantiations, emitted as an opaque object"
  | tooMany limit =>
    "limit of " ++ toString limit ++ " definitions reached, emitted as an opaque object"

end Refusal

namespace BuildState

/-- An object of which nothing else is known. -/
def opaqueObject : Schema := .ofType .object

/-- The type a reference stands for: resolved in the scope, under declared names. -/
def resolved (b : Builder) (s : BuildState) (t : TypeExpr) : TypeExpr :=
  (s.scope.resolveDeep t).canonicalize b.index

/-- Why a type that has no definition yet gets none; `t` is as written and `r` resolved. -/
def refusal? (b : Builder) (s : BuildState) (t r : TypeExpr) : Option Refusal :=
  if b.options.maxNesting < r.depth then some (.tooDeep b.options.maxNesting)
  else
    match (if t.hasVar then s.registry.growingAncestor s.expanding r else none) with
    | some ancestor => some (.growing ancestor)
    | none =>
      match b.options.maxDefinitions with
      | some limit => if limit ≤ s.registry.size then some (.tooMany limit) else none
      | none => none

/-- Leaves a type without definition. -/
def refuse (s : BuildState) (r : TypeExpr) (why : Refusal) : Schema × BuildState :=
  (opaqueObject, s.record why.code r.signature why.message)

/-- The note that a definition got another name than it asked for. -/
def noteCollision (s : BuildState) (r : TypeExpr) (id : Nat) : BuildState :=
  match s.registry.get? id with
  | some e =>
    if e.name = r.referenceName then s
    else s.record .referenceNameCollision r.signature
      ("`" ++ r.referenceName ++ "` already names another type, registered as `" ++ e.name ++ "`")
  | none => s

/-- Registers a definition and queues it for expansion. -/
def define (s : BuildState) (r : TypeExpr) (d : Declaration) : Schema × BuildState :=
  let (id, registry) := s.registry.insert r.signature r r.referenceName s.expanding
  let s := noteCollision { s with registry } r id
  let item : WorkItem :=
    { owner := s.scope.owner?, frame := .ofType r d, type := r, target := id }
  (registry.reference id, { s with worklist := s.worklist.push item })

/-- A reference to the definition of a type, or an opaque object when it gets none. -/
def register (b : Builder) (t : TypeExpr) (s : BuildState) : Schema × BuildState :=
  let r := s.resolved b t
  match r.baseName?.bind b.index.lookup with
  | none => s.refuse r .unknown
  | some d =>
    match s.registry.lookup r.signature with
    | some id => (s.registry.reference id, s)
    | none =>
      match s.refusal? b t r with
      | some why => s.refuse r why
      | none => s.define r d

end BuildState
end SchemaGraph
