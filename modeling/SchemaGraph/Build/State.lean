import SchemaGraph.Diagnostic
import SchemaGraph.Index.Kind
import SchemaGraph.Options
import SchemaGraph.Overrides.Map
import SchemaGraph.Registry
import SchemaGraph.Resolution

/-! What a build reads and what it writes. -/
namespace SchemaGraph

/-- What a build reads: declarations, options, overrides and the plugins of its host. -/
structure Builder where
  index : Index
  options : Options := {}
  terminals : Terminals := .builtin
  overrides : OverrideMap := {}
  /-- Each may supply the schema of a type; the first that does is taken. -/
  converters : List (TypeExpr → Index → Option Schema) := []
  /-- A member stays when each allows it. -/
  filters : List (Declaration → Member → Bool) := []
deriving Inhabited

namespace Builder

/-- The builder under options, which also extend the terminal types. -/
def withOptions (b : Builder) (o : Options) : Builder :=
  { b with options := o, terminals := .withExtra o.terminals }

def convert? (b : Builder) (t : TypeExpr) : Option Schema :=
  b.converters.findSome? (fun c => c t b.index)

def allows (b : Builder) (d : Declaration) (m : Member) : Bool := b.filters.all (fun f => f d m)

end Builder

/-- A definition whose body is still to be walked. -/
structure WorkItem where
  /-- Whose members led to it; nothing for a root. -/
  owner : Option TypeExpr := none
  /-- The frame of its own parameters. -/
  frame : Frame := {}
  type : TypeExpr
  target : Nat
deriving DecidableEq, Inhabited, Repr

/-- Work items, first in first out, and the number of those taken. -/
structure Worklist where
  queue : List WorkItem := []
  processed : Nat := 0
deriving DecidableEq, Inhabited, Repr

namespace Worklist

def push (w : Worklist) (i : WorkItem) : Worklist := { w with queue := w.queue ++ [i] }

def pop? (w : Worklist) : Option (WorkItem × Worklist) :=
  match w.queue with
  | [] => none
  | i :: rest => some (i, { queue := rest, processed := w.processed + 1 })

end Worklist

/-- What a build writes. -/
structure BuildState where
  registry : Registry
  worklist : Worklist := {}
  scope : Scope := []
  diagnostics : Diagnostics := []
  /-- The definition whose body is being walked. -/
  expanding : Option Nat := none
deriving Inhabited

namespace BuildState

def init (b : Builder) : BuildState := { registry := { place := b.options.place } }

def record (s : BuildState) (code : DiagnosticCode) (typeName message : String) : BuildState :=
  { s with diagnostics := s.diagnostics.record code typeName message }

end BuildState
end SchemaGraph
