import SchemaGraph.Build.Step
import SchemaGraph.Proofs.Discovery

/-! Draining ends. Only settled types over the names of a build are defined, none of them nested deeper
than the options allow, and each of these finitely many types is defined once. -/
namespace SchemaGraph

namespace Registry

variable {r : Registry}

/-- How many of some types have no definition. -/
def missing (r : Registry) (ts : List TypeExpr) : Nat :=
  ts.countP (fun t => (r.lookup t.signature).isNone)

theorem countP_lt_countP {α : Type} {p q : α → Bool} {l : List α} {a : α} (ha : a ∈ l)
    (hmono : ∀ x, p x = true → q x = true) (hp : ¬p a = true) (hq : q a = true) :
    l.countP p < l.countP q := by
  obtain ⟨l₁, l₂, rfl⟩ := List.append_of_mem ha
  have h₁ : l₁.countP p ≤ l₁.countP q := List.countP_mono_left (fun x _ => hmono x)
  have h₂ : l₂.countP p ≤ l₂.countP q := List.countP_mono_left (fun x _ => hmono x)
  rw [List.countP_append, List.countP_append, List.countP_cons_of_pos hq,
    List.countP_cons_of_neg hp]
  omega

/-- When one more name has been seen, fewer of the items under the names are unseen. -/
theorem countP_unseen_lt {α : Type} {name : α → String} {seen : List String} {l : List α} {a : α}
    (ha : a ∈ l) (hnew : name a ∉ seen) :
    l.countP (fun x => !(name a :: seen).contains (name x)) <
      l.countP (fun x => !seen.contains (name x)) := by
  refine countP_lt_countP ha (fun x => ?_) ?_ ?_
  · simp only [Bool.not_eq_true', ← Bool.not_eq_true, List.contains_iff_mem]
    exact mt (List.mem_cons_of_mem _)
  · simp
  · simpa using hnew

/-- A new definition of one of the types leaves fewer of them without. -/
theorem missing_append_lt {ts : List TypeExpr} {e : Entry} (hmem : e.type ∈ ts)
    (hs : e.signature = e.type.signature) (hnew : r.lookup e.signature = none) :
    { r with entries := r.entries ++ [e] }.missing ts < r.missing ts := by
  refine countP_lt_countP hmem (fun t => ?_) ?_ ?_
  · simp only [Option.isNone_iff_eq_none, lookup_eq_none_iff]
    exact fun h x hx => h x (List.mem_append_left _ hx)
  · simp only [Option.isNone_iff_eq_none, lookup_eq_none_iff]
    exact fun h => h e (by simp) hs
  · rw [← hs, hnew]
    rfl

end Registry

namespace BuildState

variable {b : Builder} {v : Vocabulary} {s t : BuildState} {ts : List TypeExpr}

/-- How many definitions are queued, or can still be. -/
def potential (s : BuildState) (ts : List TypeExpr) : Nat :=
  s.registry.missing ts + s.worklist.queue.length

/-- Whether the frames of all queued definitions are covered. -/
def CoversQueue (v : Vocabulary) (s : BuildState) : Prop :=
  ∀ i ∈ s.worklist.queue, v.CoversFrame i.frame

/-- Whether some types are all that a vocabulary allows to define. -/
def Exhausts (b : Builder) (v : Vocabulary) (ts : List TypeExpr) : Prop :=
  ∀ t, v.Covers t → t.Plain → t.depth ≤ b.options.maxNesting → t ∈ ts

theorem Grows.potential_le (hts : Exhausts b v ts) (h : Grows b v s t) :
    t.potential ts ≤ s.potential ts := by
  induction h with
  | refl => exact Nat.le_refl _
  | note _ _ _ _ ih => exact ih
  | enter _ _ ih => exact ih
  | @define t ty d _ hv hd ih =>
    have hmem := hts _ hv (plain_resolved b t ty) hd.depth_le
    have hlt := Registry.missing_append_lt (e := t.newEntry (t.resolved b ty)) hmem rfl hd.fresh
    simp only [potential, define_registry hd.fresh, define_worklist hd.fresh, Worklist.push,
      List.length_append, List.length_singleton] at ih ⊢
    omega

theorem Grows.coversQueue (hi : v.CoversIndex b.index) (h : Grows b v s t)
    (hq : s.CoversQueue v) : t.CoversQueue v := by
  induction h with
  | refl => exact hq
  | note _ _ _ _ ih => exact ih
  | enter _ _ ih => exact ih
  | @define t ty d _ hv hd ih =>
    obtain ⟨n, -, hl⟩ := Option.bind_eq_some_iff.mp hd.declared
    simp only [CoversQueue, define_worklist hd.fresh, Worklist.push, List.mem_append,
      List.mem_singleton]
    rintro i (hi' | rfl)
    · exact ih i hi'
    · exact Vocabulary.coversFrame_ofType hv (hi.declaration n d hl)

/-- The state in which the body of the first queued definition is walked. -/
def opened (s : BuildState) (item : WorkItem) (rest : List WorkItem) : BuildState :=
  { s with
    worklist := { queue := rest, processed := s.worklist.processed + 1 }
    expanding := some item.target }

/-- The state after a body. -/
def closed (s : BuildState) (item : WorkItem) (r : Schema × BuildState) : BuildState :=
  { r.2 with expanding := s.expanding, registry := r.2.registry.complete item.target r.1 }

theorem step_of_cons {item : WorkItem} {rest : List WorkItem}
    (h : s.worklist.queue = item :: rest) :
    s.step b = s.closed item ((s.opened item rest).expand b item) := by
  simp [step, Worklist.pop?, h, opened, closed]

theorem exists_queue (h : s.isDone = false) :
    ∃ item rest, s.worklist.queue = item :: rest := by
  exact List.exists_cons_of_ne_nil (by simpa [isDone] using h)

theorem potential_step_lt (hi : v.CoversIndex b.index) (hts : Exhausts b v ts)
    (hq : s.CoversQueue v) (h : s.isDone = false) :
    (s.step b).potential ts < s.potential ts := by
  obtain ⟨item, rest, hc⟩ := exists_queue h
  have hg : Grows b v (s.opened item rest) ((s.opened item rest).expand b item).2 :=
    grows_expand hi (hq item (by simp [hc]))
  have hle := hg.potential_le hts
  rw [step_of_cons hc]
  simp only [potential, opened, closed, hc, List.length_cons, Registry.missing,
    Registry.lookup_complete] at hle ⊢
  omega

theorem coversQueue_step (hi : v.CoversIndex b.index) (hq : s.CoversQueue v)
    (h : s.isDone = false) : (s.step b).CoversQueue v := by
  obtain ⟨item, rest, hc⟩ := exists_queue h
  have hg : Grows b v (s.opened item rest) ((s.opened item rest).expand b item).2 :=
    grows_expand hi (hq item (by simp [hc]))
  have hafter := hg.coversQueue hi (fun i hmem => hq i (hc ▸ List.mem_cons_of_mem item hmem))
  rw [step_of_cons hc]
  exact hafter

/-- The types in the frames of queued definitions. -/
def queuedTypes (s : BuildState) : List TypeExpr :=
  s.worklist.queue.flatMap (fun i => i.frame.bindings.map Prod.snd)

/-- What a drain can meet. -/
def vocabulary (b : Builder) (s : BuildState) : Vocabulary := b.index.vocabulary s.queuedTypes

/-- The types that a drain can define. -/
def instances (b : Builder) (s : BuildState) : List TypeExpr :=
  TypeExpr.instances (b.index.usedNames s.queuedTypes) (b.index.usedArities s.queuedTypes)
    b.options.maxNesting

theorem exhausts_instances (b : Builder) (s : BuildState) :
    Exhausts b (s.vocabulary b) (s.instances b) :=
  fun _ hv hp hd => Vocabulary.mem_instances hv hp hd

theorem coversQueue_vocabulary (b : Builder) (s : BuildState) :
    s.CoversQueue (s.vocabulary b) := fun i hi e he =>
  Index.covers_of_mem_types (List.mem_append_right _
    (List.mem_flatMap.mpr ⟨i, hi, List.mem_map.mpr ⟨e, he, rfl⟩⟩))

/-- Whether a state follows another in a drain. -/
def Follows (b : Builder) (t s : BuildState) : Prop := s.isDone = false ∧ t = s.step b

theorem wellFounded_follows (b : Builder) : WellFounded (Follows b) := by
  refine ⟨fun s => ?_⟩
  have hi := Index.coversIndex_vocabulary b.index s.queuedTypes
  have hts := exhausts_instances b s
  -- The vocabulary and its types are those of the start, since a drain meets no others.
  have hacc : ∀ n (t : BuildState), t.potential (s.instances b) = n →
      t.CoversQueue (s.vocabulary b) → Acc (Follows b) t := by
    intro n
    induction n using Nat.strongRecOn with
    | ind n ih =>
      intro t hn hq
      refine ⟨t, ?_⟩
      rintro _ ⟨hd, rfl⟩
      exact ih _ (hn ▸ potential_step_lt hi hts hq hd) _ rfl (coversQueue_step hi hq hd)
  exact hacc _ s rfl (coversQueue_vocabulary b s)

end BuildState
end SchemaGraph
