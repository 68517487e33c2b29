import SchemaGraph.Proofs.WellFormed

/-! Every definition is queued once and expanded once, in the order of discovery. -/
namespace SchemaGraph.BuildState

/-- The definitions that a drain expands, in order. -/
def drained (b : Builder) (s : BuildState) : List WorkItem :=
  if _ : s.isDone then [] else s.worklist.queue.head?.toList ++ drained b (s.step b)
termination_by (wellFounded_follows b).wrap s
decreasing_by exact ⟨Bool.eq_false_iff.mpr ‹_›, rfl⟩

/-- The definitions that a call expands. -/
def expandedBy (b : Builder) (s : BuildState) : Call → List WorkItem
  | .drain => s.drained b
  | .process _ _ | .register _ => []

/-- The definitions that calls on a state expand. -/
def expandedFrom (b : Builder) : BuildState → List Call → List WorkItem
  | _, [] => []
  | s, c :: calls => s.expandedBy b c ++ expandedFrom b (s.perform b c) calls

/-- The definitions that calls on a fresh state have expanded. -/
def expanded (b : Builder) (calls : List Call) : List WorkItem := expandedFrom b (init b) calls

/-- Where a build stands that has taken `items` from its queue and completed `done` definitions: what
was queued, taken or not, is every definition in the order of discovery. -/
structure InOrder (done : Nat) (items : List WorkItem) (s : BuildState) : Prop where
  done_le : done ≤ items.length
  processed : s.worklist.processed = items.length
  targets : (items ++ s.worklist.queue).map WorkItem.target = List.range s.registry.size
  types : (items ++ s.worklist.queue).map WorkItem.type = s.registry.entries.map Entry.type
  completed : ∀ id e, s.registry.get? id = some e → (e.completed = true ↔ id < done)

variable {b : Builder} {v : Vocabulary} {s t : BuildState} {done : Nat} {items : List WorkItem}

theorem inOrder_init (b : Builder) : InOrder 0 [] (init b) where
  done_le := Nat.le_refl 0
  processed := rfl
  targets := rfl
  types := rfl
  completed := by simp [init, Registry.get?]

theorem InOrder.length_le (h : InOrder done items s) : items.length ≤ s.registry.size := by
  have := congrArg List.length h.targets
  simp only [List.length_map, List.length_append, List.length_range] at this
  omega

/-- Walking keeps the order: a new definition is last, and queued last. -/
theorem InOrder.grows (h : InOrder done items s) (hg : Grows b v s t) : InOrder done items t := by
  induction hg with
  | refl => exact h
  | note _ _ _ _ ih => exact ⟨ih.1, ih.2, ih.3, ih.4, ih.5⟩
  | enter _ _ ih => exact ⟨ih.1, ih.2, ih.3, ih.4, ih.5⟩
  | @define t ty d _ _ hd ih =>
    constructor
    · exact ih.done_le
    · rw [define_worklist hd.fresh]
      exact ih.processed
    · rw [define_worklist hd.fresh, define_registry hd.fresh, Worklist.push, ← List.append_assoc,
        List.map_append, ih.targets]
      simp [Registry.size, newItem, List.range_succ]
    · rw [define_worklist hd.fresh, define_registry hd.fresh, Worklist.push, ← List.append_assoc,
        List.map_append, ih.types]
      simp [newItem, newEntry]
    · intro id e he
      rw [define_registry hd.fresh, Registry.get?, List.getElem?_append] at he
      split at he
      · exact ih.completed id e he
      · -- Nothing is completed at or beyond the number of definitions, where the new one stands.
        rename_i hid
        have := List.mem_singleton.mp (List.mem_of_getElem? he)
        subst this
        have hle := ih.length_le
        have hdone := ih.done_le
        simp only [Registry.size] at hle
        simp only [newEntry, Bool.false_eq_true, false_iff]
        omega

theorem InOrder.target_eq {item : WorkItem} {rest : List WorkItem} (h : InOrder done items s)
    (hq : s.worklist.queue = item :: rest) : item.target = items.length := by
  have hget := congrArg (·[items.length]?) h.targets
  have hlt : items.length < s.registry.size := by
    have := congrArg List.length h.targets
    simp only [hq, List.length_map, List.length_append, List.length_cons,
      List.length_range] at this
    omega
  simpa [hq, List.getElem?_range hlt] using hget

theorem InOrder.step (h : InOrder items.length items s) {item : WorkItem} {rest : List WorkItem}
    (hq : s.worklist.queue = item :: rest) :
    InOrder (items ++ [item]).length (items ++ [item]) (s.step b) := by
  have hopened : InOrder items.length (items ++ [item]) (s.opened item rest) := by
    refine ⟨by simp, ?_, ?_, ?_, h.completed⟩
    · simpa [opened] using h.processed
    · simpa [opened, hq] using h.targets
    · simpa [opened, hq] using h.types
  have hg := hopened.grows (grows_step_body b s item rest)
  have htarget := h.target_eq hq
  rw [step_of_cons hq]
  refine ⟨Nat.le_refl _, hg.processed, ?_, ?_, ?_⟩
  · simpa [closed] using hg.targets
  · rw [closed, Registry.map_complete (f := Entry.type) (fun _ _ => rfl)]
    exact hg.types
  · intro id e he
    rw [closed, Registry.get?_complete, Option.map_eq_some_iff] at he
    obtain ⟨e', he', rfl⟩ := he
    have hc := hg.completed id e' he'
    rw [List.length_append, List.length_singleton]
    split
    · simp only [true_iff]
      omega
    · rw [hc]
      omega

theorem drained_of_isDone (h : s.isDone = true) : s.drained b = [] := by
  rw [drained, dif_pos h]

theorem drained_of_cons {item : WorkItem} {rest : List WorkItem}
    (hq : s.worklist.queue = item :: rest) : s.drained b = item :: (s.step b).drained b := by
  rw [drained, dif_neg (by simp [isDone, hq])]
  simp [hq]

theorem InOrder.drain (h : InOrder items.length items s) :
    InOrder (items ++ s.drained b).length (items ++ s.drained b) (s.drain b) := by
  induction s using drain_induction (b := b) generalizing items with
  | done s hd => simpa [drained_of_isDone hd, drain_of_isDone hd] using h
  | step s hd ih =>
    obtain ⟨item, rest, hq⟩ := exists_queue hd
    have := ih (h.step hq)
    rwa [drain_step hd, List.append_assoc, List.singleton_append, ← drained_of_cons hq] at this

theorem InOrder.perform (h : InOrder items.length items s) (c : Call) :
    InOrder (items ++ s.expandedBy b c).length (items ++ s.expandedBy b c) (s.perform b c) := by
  cases c with
  | process ty node =>
    simpa [expandedBy, BuildState.perform] using h.grows (grows_process b ty node s)
  | register ty =>
    simpa [expandedBy, BuildState.perform] using h.grows (grows_register_full b ty s)
  | drain => exact h.drain

theorem inOrder_after (b : Builder) (calls : List Call) :
    InOrder (expanded b calls).length (expanded b calls) (after b calls) := by
  have hrun : ∀ (calls : List Call) (items : List WorkItem) (s : BuildState),
      InOrder items.length items s →
        InOrder (items ++ expandedFrom b s calls).length (items ++ expandedFrom b s calls)
          (calls.foldl (BuildState.perform b) s) := by
    intro calls
    induction calls with
    | nil =>
      intro items s h
      simpa [expandedFrom] using h
    | cons c calls ih =>
      intro items s h
      have := ih _ _ (h.perform (b := b) c)
      rwa [List.append_assoc] at this
  exact hrun calls [] (init b) (inOrder_init b)

/-! What the order says. -/

theorem InOrder.taken (h : InOrder done items s) :
    items.map WorkItem.target = List.range s.worklist.processed := by
  have := congrArg (List.take items.length) h.targets
  rwa [List.map_append, List.take_left' (List.length_map ..), List.take_range,
    Nat.min_eq_left h.length_le, ← h.processed] at this

theorem InOrder.waiting (h : InOrder done items s) :
    s.worklist.queue.map WorkItem.target =
      List.range' s.worklist.processed (s.registry.size - s.worklist.processed) := by
  have := congrArg (List.drop items.length) h.targets
  rw [List.map_append, List.drop_left' (List.length_map ..), List.range_eq_range',
    List.drop_range', ← h.processed] at this
  simpa using this

/-- What was queued for a definition carries the type of the definition. -/
theorem InOrder.carried (h : InOrder done items s) {i : WorkItem}
    (hi : i ∈ items ++ s.worklist.queue) :
    ∃ e, s.registry.get? i.target = some e ∧ e.type = i.type := by
  obtain ⟨j, hj⟩ := List.getElem?_of_mem hi
  have htarget := congrArg (·[j]?) h.targets
  have htype := congrArg (·[j]?) h.types
  simp only [List.getElem?_map, hj, Option.map_some] at htarget htype
  obtain ⟨e, he, heq⟩ := Option.map_eq_some_iff.mp htype.symm
  obtain ⟨hlt, hj'⟩ := List.getElem?_eq_some_iff.mp htarget.symm
  rw [List.getElem_range] at hj'
  exact ⟨e, hj' ▸ he, heq⟩

/-- Where nothing waits, every definition has its body. -/
theorem InOrder.all_completed (h : InOrder items.length items s) (hq : s.worklist.queue = []) :
    ∀ e ∈ s.registry.entries, e.completed = true := by
  intro e he
  obtain ⟨id, hid⟩ := List.getElem?_of_mem he
  have hget : s.registry.get? id = some e := hid
  have hlt := Registry.lt_size_of_get? hget
  have hsize := congrArg List.length h.targets
  simp only [hq, List.append_nil, List.length_map, List.length_range] at hsize
  exact (h.completed id e hget).mpr (by omega)

/-- Where a build stands after some calls. -/
structure SingleFlight (b : Builder) (calls : List Call) : Prop where
  /-- The definitions that wait are those that were not taken yet, in the order of discovery. -/
  waiting : (after b calls).worklist.processed ≤ (after b calls).registry.size ∧
    (after b calls).worklist.queue.map WorkItem.target =
      List.range' (after b calls).worklist.processed
        ((after b calls).registry.size - (after b calls).worklist.processed)
  /-- What waits carries the type of its definition. -/
  carried : ∀ i ∈ (after b calls).worklist.queue,
    ∃ e, (after b calls).registry.get? i.target = some e ∧ e.type = i.type
  /-- The definitions that were taken have their bodies, and no others. -/
  completed : ∀ id e, (after b calls).registry.get? id = some e →
    (e.completed = true ↔ id < (after b calls).worklist.processed)
  /-- Every definition was queued once, in the order of discovery, -/
  queued : (expanded b calls ++ (after b calls).worklist.queue).map WorkItem.target =
    List.range (after b calls).registry.size
  /-- no signature was queued twice, -/
  signatures : ((expanded b calls ++ (after b calls).worklist.queue).map
    (fun i => i.type.signature)).Nodup
  /-- and what was taken was expanded once, in this order. -/
  expanded : (expanded b calls).map WorkItem.target =
    List.range (after b calls).worklist.processed
  /-- Nothing waits after draining. -/
  drained : (after b (calls ++ [.drain])).worklist.queue = [] ∧
    (after b (calls ++ [.drain])).registry.pending = 0

theorem queue_eq_nil_of_isDone (h : s.isDone = true) : s.worklist.queue = [] := by
  simpa [isDone] using h

/-- Definitions are expanded once, in the order of discovery, after every sequence of calls. -/
theorem singleFlight_after (b : Builder) (calls : List Call) : SingleFlight b calls := by
  have h := inOrder_after b calls
  have hlen := h.length_le
  refine ⟨⟨h.processed ▸ hlen, h.waiting⟩, ?_, ?_, h.targets, ?_, h.taken, ?_⟩
  · exact fun i hi => h.carried (List.mem_append_right _ hi)
  · rw [h.processed]
    exact h.completed
  · have hs := sound_after b calls
    have hsig : (after b calls).registry.entries.map Entry.signature =
        ((after b calls).registry.entries.map Entry.type).map TypeExpr.signature := by
      rw [List.map_map]
      exact List.map_congr_left (fun e he => (hs.entries e he).signature)
    have hnodup := hs.signatures
    rwa [hsig, ← h.types, List.map_map] at hnodup
  · have hd := inOrder_after b (calls ++ [.drain])
    have hnil : (after b (calls ++ [.drain])).worklist.queue = [] := by
      rw [after_append]
      exact queue_eq_nil_of_isDone (isDone_drain b _)
    refine ⟨hnil, ?_⟩
    rw [Registry.pending, List.length_eq_zero_iff, List.filter_eq_nil_iff]
    intro e he
    simp [hd.all_completed hnil e he]

end SchemaGraph.BuildState
