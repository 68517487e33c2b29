import SchemaGraph.Build.Walk

/-! From a queued definition to its body. -/
namespace SchemaGraph

/-- A class body under construction. -/
structure Body where
  properties : List (String × Schema) := []
  required : List String := []
  /-- The declarations whose members are in it. -/
  visited : List String
  state : BuildState
deriving Inhabited

namespace Body

def setMember (body : Body) (member : Option String) : Body :=
  { body with state := { body.state with scope := body.state.scope.setMember member } }

/-- The layers of a member: its declaration, and the overrides beside it. -/
def memberOverrides (b : Builder) (d : Declaration) (m : Member) : Overrides :=
  m.overrides.mergeOption (b.overrides.member? d.name m.name)

/-- Adds a member of a declaration. A property that is already there keeps its place. -/
def addMember (b : Builder) (d : Declaration) (body : Body) (m : Member) : Body :=
  let o := memberOverrides b d m
  if !b.allows d m || o.hidden then body
  else
    let body := body.setMember (some m.name)
    let w := body.state.walk b m.type .empty
    let property := o.rename.getD m.name
    { body with
      properties := Assoc.put property (o.apply w.schema) body.properties
      required :=
        if o.required = some true ∧ property ∉ body.required then body.required ++ [property]
        else body.required
      state := w.state }

def addMembers (b : Builder) (d : Declaration) (body : Body) : Body :=
  (d.members.foldl (addMember b d) body).setMember none

def enter (body : Body) (supertype : TypeExpr) (parent : Declaration) : Body :=
  { body with
    visited := parent.name :: body.visited
    state := { body.state with scope := .ofType supertype parent :: body.state.scope } }

def leave (body : Body) : Body :=
  { body with state := { body.state with scope := body.state.scope.tail } }

/-- Adds what a supertype brings with `descend`, unless it has been entered before. -/
def addSupertype (b : Builder) (descend : Declaration → Body → Body) (body : Body)
    (supertype : TypeExpr) : Body :=
  let r := body.state.scope.resolveDeep supertype
  match r.baseName?.bind b.index.lookup with
  | none => body
  | some parent =>
    if parent.isEnum || body.visited.contains parent.name then body
    else (descend parent (body.enter r parent)).leave

/-- Adds the members that a declaration inherits, supertype by supertype, and then its own. Each
declaration is entered once, so that `fuel` need not exceed their number. -/
def addDeclaration (b : Builder) : Nat → Declaration → Body → Body
  | 0 => addMembers b
  | fuel + 1 => fun d body =>
    (d.supertypes.foldl (addSupertype b (addDeclaration b fuel)) body).addMembers b d

def toSchema (body : Body) : Schema :=
  { Schema.object with
    properties := some body.properties
    required := if body.required.isEmpty then none else some body.required }

end Body

namespace BuildState

/-- The body of a class or enumeration, in a scope that holds the frame of the definition alone. -/
def expandDeclaration (b : Builder) (d : Declaration) (frame : Frame) (s : BuildState) :
    Schema × BuildState :=
  let outer := s.scope
  let (schema, s) :=
    match d.values? with
    | some vs => (Schema.enumeration vs, s)
    | none =>
      let body : Body := { visited := [d.name], state := { s with scope := [frame] } }
      let body := body.addDeclaration b b.index.size d
      (body.toSchema, body.state)
  ((d.overrides.mergeOption (b.overrides.type? d.name)).apply schema, { s with scope := outer })

def expand (b : Builder) (item : WorkItem) (s : BuildState) : Schema × BuildState :=
  match item.type.baseName?.bind b.index.lookup with
  | none => (opaqueObject, s)
  | some d => s.expandDeclaration b d item.frame

end BuildState
end SchemaGraph
