import SchemaGraph.Proofs.Repeat

/-! The states that a build comes to: between calls, between two definitions, and in the middle of a
body. -/
namespace SchemaGraph.BuildState

/-- What happens at once while a type is walked or a body expanded. -/
inductive Move (b : Builder) (s : BuildState) : BuildState → Prop
  | effect (e : Effect) : Move b s (s.undergo b e).2
  /-- A member is begun, or a supertype entered or left. -/
  | enter (scope : Scope) : Move b s { s with scope }

/-- What happens one after the other. -/
abbrev Moves (b : Builder) : BuildState → BuildState → Prop := Relation.ReflTransGen (Move b)

/-- Whether a build can come to a state: it starts, walks, takes the first definition from the queue, or
stores the body that it has walked since. -/
inductive Reachable (b : Builder) : BuildState → Prop
  | init : Reachable b (init b)
  | move {s t : BuildState} (h : Reachable b s) (hm : Move b s t) : Reachable b t
  | opened {s : BuildState} {item : WorkItem} {rest : List WorkItem} (h : Reachable b s)
    (hq : s.worklist.queue = item :: rest) : Reachable b (s.opened item rest)
  | closed {s t : BuildState} {item : WorkItem} {rest : List WorkItem} (hs : Reachable b s)
    (hq : s.worklist.queue = item :: rest) (hm : Moves b (s.opened item rest) t)
    (ht : Reachable b t) (body : Schema) : Reachable b (s.closed item (body, t))

variable {b : Builder} {s t : BuildState}

theorem Reachable.moves (h : Reachable b s) (hm : Moves b s t) : Reachable b t := by
  induction hm with
  | refl => exact h
  | tail _ hm ih => exact ih.move hm

/-! What walks and bodies do are such moves. -/

theorem moves_walk (b : Builder) (t : TypeExpr) (node : Schema) (s : BuildState) :
    Moves b s (s.walk b t node).state := by
  obtain ⟨e, stands, schema, hwalk⟩ := exists_effect b b.options.maxNesting t node s.scope
  have hstate : (s.walk b t node).state = (s.undergo b e).2 := congrArg Walked.state (hwalk s rfl)
  rw [hstate]
  exact .single (.effect e)

theorem moves_addMember (b : Builder) (d : Declaration) (m : Member) (body : Body) :
    Moves b body.state (body.addMember b d m).state := by
  dsimp only [Body.addMember]
  split
  · exact .refl
  · exact .head (.enter _) (moves_walk b ..)

theorem moves_addDeclaration (b : Builder) (fuel : Nat) (d : Declaration) (body : Body) :
    Moves b body.state (body.addDeclaration b fuel d).state := by
  apply Body.addDeclaration_keeps (P := fun body' => Moves b body.state body'.state)
  · intro body' h d m
    exact h.trans (moves_addMember b d m body')
  · exact fun _ h => h.tail (.enter _)
  · exact fun _ h _ _ => h.tail (.enter _)
  · exact fun _ h => h.tail (.enter _)
  · exact .refl

theorem moves_expand (b : Builder) (item : WorkItem) (s : BuildState) :
    Moves b s (s.expand b item).2 := by
  unfold expand
  split
  · exact .refl
  · rename_i d hd
    dsimp only [expandDeclaration]
    split
    · exact .refl
    · let body : Body := { visited := [d.name], state := { s with scope := [item.frame] } }
      have hbody : Moves b s body.state := .single (.enter _)
      exact (hbody.trans (moves_addDeclaration b b.index.size d body)).tail (.enter s.scope)

/-! Whatever a host does, a build stays reachable. -/

theorem Reachable.walk (h : Reachable b s) (t : TypeExpr) (node : Schema) :
    Reachable b (s.walk b t node).state := h.moves (moves_walk b t node s)

theorem Reachable.step (h : Reachable b s) : Reachable b (s.step b) := by
  cases hq : s.worklist.queue with
  | nil =>
    have hsame : s.step b = s := by simp [BuildState.step, Worklist.pop?, hq]
    rwa [hsame]
  | cons item rest =>
    have hmoves := moves_expand b item (s.opened item rest)
    rw [step_of_cons hq]
    exact .closed h hq hmoves ((h.opened hq).moves hmoves) _

theorem Reachable.perform (h : Reachable b s) (c : Call) : Reachable b (s.perform b c) := by
  cases c with
  | process t node => exact h.walk t node
  | register t => exact h.move (.effect (.register t))
  | drain => exact drain_keeps (fun _ _ hs => hs.step) h

theorem reachable_after (b : Builder) (calls : List Call) : Reachable b (after b calls) := by
  unfold after
  have h : Reachable b (init b) := .init
  generalize init b = s at h
  induction calls generalizing s with
  | nil => exact h
  | cons c calls ih => exact ih _ (h.perform c)

/-! What moves do, reachable states have. -/

theorem grows_undergo (b : Builder) (s : BuildState) (e : Effect) :
    Grows b .full s (s.undergo b e).2 := by
  cases e with
  | nothing => exact .refl
  | unbound name => exact Grows.refl.note ..
  | tooDeep t => exact Grows.refl.note ..
  | register t => exact grows_register_full b t s

theorem Move.grows (h : Move b s t) : Grows b .full s t := by
  cases h with
  | effect e => exact grows_undergo b s e
  | enter scope => exact Grows.refl.enter scope

theorem Moves.grows (h : Moves b s t) : Grows b .full s t := by
  induction h with
  | refl => exact .refl
  | tail _ hm ih => exact ih.trans hm.grows

theorem Reachable.sound (h : Reachable b s) : Sound b s := by
  induction h with
  | init => exact sound_init b
  | move _ hm ih => exact ih.grows hm.grows
  | opened _ hq ih => exact ih.opened hq
  | closed _ _ hm _ _ ihs iht =>
    refine iht.closed (fun p hp => ?_)
    exact Nat.lt_of_lt_of_le (ihs.expanding p hp) (Moves.grows hm).size_le

end SchemaGraph.BuildState
