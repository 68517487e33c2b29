import SchemaGraph.Build.Expand

/-! Expanding the definition that was queued first. -/
namespace SchemaGraph.BuildState

def isDone (s : BuildState) : Bool := s.worklist.queue.isEmpty

/-- Walks the body of the definition that was queued first. -/
def step (b : Builder) (s : BuildState) : BuildState :=
  match s.worklist.pop? with
  | none => s
  | some (item, worklist) =>
    let (body, t) := expand b item { s with worklist, expanding := some item.target }
    { t with expanding := s.expanding, registry := t.registry.complete item.target body }

end SchemaGraph.BuildState
