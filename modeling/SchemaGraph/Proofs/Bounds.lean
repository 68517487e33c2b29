import SchemaGraph.Proofs.CallStack
import SchemaGraph.Proofs.Inheritance
import SchemaGraph.Proofs.WellFormed

/-! Every build ends, within bounds that its index and its options set. -/
namespace SchemaGraph.BuildState

variable {b : Builder} {v : Vocabulary} {s t : BuildState}

theorem Grows.processed (h : Grows b v s t) : t.worklist.processed = s.worklist.processed := by
  induction h with
  | refl => rfl
  | note _ _ _ _ ih => exact ih
  | enter _ _ ih => exact ih
  | define _ _ hd ih =>
    rw [define_worklist hd.fresh]
    exact ih

theorem processed_step (hd : s.isDone = false) :
    (s.step b).worklist.processed = s.worklist.processed + 1 := by
  obtain ⟨item, rest, -, hstep, hg⟩ := step_cases b hd
  rw [hstep]
  exact hg.processed

/-- A drain is so many steps as there are definitions to expand, no more than the vocabulary allows. -/
theorem drain_eq_iterate {ts : List TypeExpr} (hi : v.CoversIndex b.index) (hts : Exhausts b v ts)
    (hq : s.CoversQueue v) :
    ∃ n ≤ s.potential ts, s.drain b = (step b)^[n] s ∧
      (s.drain b).worklist.processed = s.worklist.processed + n := by
  induction s using drain_induction (b := b) with
  | done s hd =>
    rw [drain_of_isDone hd]
    exact ⟨0, Nat.zero_le _, rfl, rfl⟩
  | step s hd ih =>
    obtain ⟨n, hn, hdrain, hprocessed⟩ := ih (coversQueue_step hi hq hd)
    have hlt := potential_step_lt hi hts hq hd
    rw [drain_step hd] at hdrain hprocessed
    refine ⟨n + 1, by omega, hdrain, ?_⟩
    rw [hprocessed, processed_step hd]
    omega

theorem potential_le (s : BuildState) (ts : List TypeExpr) :
    s.potential ts ≤ s.worklist.queue.length + ts.length := by
  have : s.registry.missing ts ≤ ts.length := List.countP_le_length
  rw [potential]
  omega

/-- What bounds the loops and the calls of a build. -/
structure Bounded (b : Builder) : Prop where
  /-- A drain takes finitely many definitions from the queue, one by one, and leaves none. -/
  drain : ∀ s, ∃ n ≤ s.worklist.queue.length + (s.instances b).length,
    s.drain b = (step b)^[n] s ∧ (s.drain b).worklist.queue = [] ∧
      (s.drain b).worklist.processed = s.worklist.processed + n
  /-- Supertypes are not entered more deeply than there are declarations. -/
  inheritance : ∀ d (body : Body) fuel, b.index.size ≤ fuel →
    body.addDeclaration b fuel d = body.addDeclaration b b.index.size d
  /-- The search among the parents of a definition does not go on longer than there are definitions. -/
  ancestors : ∀ s, Sound b s → ∀ t start fuel, s.registry.size < fuel →
    s.registry.ancestorFrom t fuel start = s.registry.ancestorFrom t (s.registry.size + 1) start
  /-- The search for a free name finds one. -/
  names : ∀ (r : Registry) base, r.isTaken (r.freeName base) = false
  /-- A walk ends with its result. -/
  walks : ∀ t node s, Walking.Reaches b (.start t node s) (.result (s.walk b t node) 0 [])
  /-- At most as many calls of the walk as the nesting allows are under way within the limit, and at
  most one more, which returns at once. -/
  calls : ∀ t node s m, Walking.Reaches b (.start t node s) m →
    m.admitted b ≤ b.options.maxNesting ∧ m.calls ≤ b.options.maxNesting + 1

/-- Every build ends, whatever it reads. -/
theorem bounded (b : Builder) : Bounded b where
  drain s := by
    obtain ⟨n, hn, hdrain, hprocessed⟩ :=
      drain_eq_iterate (Index.coversIndex_vocabulary b.index s.queuedTypes) (exhausts_instances b s)
        (coversQueue_vocabulary b s)
    exact ⟨n, Nat.le_trans hn (potential_le s _), hdrain,
      by simpa [isDone] using isDone_drain b s, hprocessed⟩
  inheritance d body fuel hle := Body.addDeclaration_of_le hle d (Index.unvisited_le _ _)
  ancestors s hs t start fuel h := Registry.ancestorFrom_of_le hs.parents t start h
  names r base := Registry.isTaken_freeName r base
  walks t node s := Walking.reaches_walk b t node s
  calls t node s m hm := by
    have hadmitted := ((Walking.counted_start t node s).reaches hm).admitted_le
    have hcalls := m.calls_le_admitted (b := b)
    exact ⟨hadmitted, by omega⟩

/-- The calls under way can be one more than the nesting that is allowed: under a limit of one, the
items of an array are looked at by a second call. -/
theorem calls_exceed_nesting :
    ¬∀ b t node s m, Walking.Reaches b (.start t node s) m → m.calls ≤ b.options.maxNesting := by
  intro h
  have hm : ∃ m, Walking.Reaches { index := {}, options := { maxNesting := 1 } }
      (.start (.array (.named "u8" []) 1) .empty { registry := { place := "" } }) m ∧
      m.calls = 2 := ⟨_, .single rfl, rfl⟩
  obtain ⟨m, hm, hcalls⟩ := hm
  have hle : m.calls ≤ 1 := h _ _ _ _ m hm
  omega

end SchemaGraph.BuildState
