import SchemaGraph.Build.Register

/-! From one occurrence of a type to its schema node. Classes are not entered: they become references,
and their bodies are expanded later. -/
namespace SchemaGraph

/-- What a walk gives: the type that the schema stands for, the schema, and the state after it. -/
structure Walked where
  type : TypeExpr
  schema : Schema
  state : BuildState
deriving Inhabited

/-- A walk of a type into a node. -/
abbrev Walk := TypeExpr → Schema → BuildState → Walked

/-- What one step of a walk does: it answers by itself, or it walks one more type, into the node that it
was given or into one of its own. -/
inductive Visit where
  | answer (type : TypeExpr) (schema : Schema) (state : BuildState)
  | pass (type : TypeExpr)
  | wrap (type : TypeExpr) (around : Schema → Schema) (stands : TypeExpr → TypeExpr)

/-- The walk that a step begins and that goes on below with `descend`. -/
def Visit.follow (descend : Walk) (node : Schema) (s : BuildState) : Visit → Walked
  | answer t schema s => ⟨t, node.overlay schema, s⟩
  | pass t => descend t node s
  | wrap t around stands =>
    let w := descend t .empty s
    ⟨stands w.type, node.overlay (around w.schema), w.state⟩

namespace BuildState

/-- The note that a type is nested too deep. -/
def nestingMessage (limit : Nat) : String := (Refusal.tooDeep limit).message

/-- The name of a variable under the type whose members are walked. -/
def scopedName (s : BuildState) (name : String) : String :=
  match s.scope.owner? with
  | some owner => owner.signature ++ "::" ++ name
  | none => name

/-- A collection; without an argument its items say nothing. -/
def visitCollection (b : Builder) (name : String) (args : List TypeExpr) (stands : TypeExpr)
    (s : BuildState) : Visit :=
  let around (items : Schema) : Schema :=
    { Schema.arrayOf items with
      uniqueItems := if b.index.isA name .set then some true else none }
  match args with
  | [] => .answer stands (around .empty) s
  | a :: _ => .wrap a around (fun _ => stands)

/-- A map; its values are those of the second argument. -/
def visitMap (args : List TypeExpr) (stands : TypeExpr) (s : BuildState) : Visit :=
  match args with
  | _ :: v :: _ => .wrap v Schema.mapOf (fun _ => stands)
  | _ => .answer stands (.mapOf .empty) s

/-- An enumeration, written out where it occurs; its definition is registered too. -/
def visitEnum (b : Builder) (t : TypeExpr) (name : String) (s : BuildState) : Visit :=
  match b.index.lookup name with
  | none => .answer (.named "String" []) (.ofType .string) s
  | some d =>
    .answer (.named "String" [])
      { Schema.ofType .string with enumValues := d.values?.map (·.map Json.str) }
      (s.register b t).2

def visitClass (b : Builder) (t stands : TypeExpr) (s : BuildState) : Visit :=
  let (schema, s) := s.register b t
  .answer stands schema s

/-- A named type: terminal, wrapper, enumeration, collection, map or class, the first that applies. -/
def visitNamed (b : Builder) (name : String) (args : List TypeExpr) (s : BuildState) : Visit :=
  let t := TypeExpr.named name args
  let is := b.index.isA name
  let stands := if args.isEmpty then t else s.scope.resolveDeep t
  match b.terminals.lookup name with
  | some terminal => .answer t terminal s
  | none =>
    if is .optional || is .transparent then
      match args with
      | [] => .answer .any opaqueObject s
      | a :: _ => .pass a
    else if is .enum then visitEnum b t name s
    else if is .collection || is .iterable then visitCollection b name args stands s
    else if is .map then visitMap args stands s
    else visitClass b t stands s

def visit (b : Builder) (t : TypeExpr) (s : BuildState) : Visit :=
  match b.convert? t with
  | some schema => .answer t schema s
  | none =>
    match t with
    | .wildcard u => .pass (TypeExpr.substituteBound s.scope.meaning u)
    | .var name =>
      match s.scope.resolve t with
      | .any =>
        .answer .any opaqueObject (s.record .unresolvedVariable (s.scopedName name)
          "no binding or bound in scope, emitted as an opaque object")
      | r => .pass r
    | .any => .answer .any opaqueObject s
    | .array c d => .wrap c (·.nest d) (·.arrayOf d)
    | .named name args => visitNamed b name args s

/-- The walk with `room` levels left of the deepest nesting; below it stands an opaque object. -/
def walkWithin (b : Builder) : Nat → Walk
  | 0 => fun t node s =>
    ⟨.any, node.overlay opaqueObject,
      s.record .nestingLimitReached t.signature (nestingMessage b.options.maxNesting)⟩
  | room + 1 => fun t node s => (visit b t s).follow (walkWithin b room) node s

/-- Walks a type into a node: what is inferred overwrites the node's keywords, the rest stays. -/
def walk (b : Builder) : Walk := walkWithin b b.options.maxNesting

end BuildState
end SchemaGraph
