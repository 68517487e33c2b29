import SchemaGraph.Proofs.Termination

/-! Expanding definitions until none is queued. -/
namespace SchemaGraph.BuildState

/-- Expands queued definitions, and those that they lead to, until none is left. -/
def drain (b : Builder) (s : BuildState) : BuildState :=
  if _ : s.isDone then s else drain b (s.step b)
termination_by (wellFounded_follows b).wrap s
decreasing_by exact ⟨Bool.eq_false_iff.mpr ‹_›, rfl⟩

end SchemaGraph.BuildState
