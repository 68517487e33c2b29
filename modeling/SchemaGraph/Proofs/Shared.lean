import SchemaGraph.Proofs.Alike

/-! Builds of several roots share their definitions. Unless a limit is met, they give what builds of the
single roots give: the same schemas for the roots, and all their definitions. -/
namespace SchemaGraph

open TypeExpr (telling)

namespace BuildState

variable {b : Builder} {P Q : TypeExpr → Prop} {s t : BuildState} {ty : TypeExpr} {x y : Schema}
  {i : WorkItem}

/-- Whether a state has definitions only of some types. -/
def Within (P : TypeExpr → Prop) (s : BuildState) : Prop := ∀ ty ∈ s.registry.types, P ty

/-- Whether a body is that of a type, and all that it needs is among some types. -/
def Expands (b : Builder) (P : TypeExpr → Prop) (ty : TypeExpr) (body : Schema) : Prop :=
  ∃ s i, Faithful b s ∧ s.scope = [] ∧ i.Framed b ∧ i.type = ty ∧
    (s.expand b i).2.diagnostics.Clean ∧ (s.expand b i).2.Within P ∧ (s.expand b i).1 = body

/-- Whether a schema is that of a root, and all that it needs is among some types. -/
def Starts (b : Builder) (P : TypeExpr → Prop) (root : TypeExpr) (schema : Schema) : Prop :=
  ∃ s, Faithful b s ∧ s.scope = [] ∧ (s.walk b root .empty).state.diagnostics.Clean ∧
    (s.walk b root .empty).state.Within P ∧ (s.walk b root .empty).schema = schema

theorem Within.mono (h : s.Within P) (hPQ : ∀ ty, P ty → Q ty) : s.Within Q :=
  fun ty hty => hPQ ty (h ty hty)

theorem Expands.mono (h : Expands b P ty x) (hPQ : ∀ ty, P ty → Q ty) : Expands b Q ty x := by
  obtain ⟨s, i, hs, hscope, hi, htype, hc, hP, hbody⟩ := h
  exact ⟨s, i, hs, hscope, hi, htype, hc, hP.mono hPQ, hbody⟩

theorem Starts.mono (h : Starts b P ty x) (hPQ : ∀ ty, P ty → Q ty) : Starts b Q ty x := by
  obtain ⟨s, hs, hscope, hc, hP, hschema⟩ := h
  exact ⟨s, hs, hscope, hc, hP.mono hPQ, hschema⟩

/-- What one of two alike states has is among some types when what the other has is. -/
theorem Alike.within {s' t' : BuildState} (h : Alike s s' t t') (hs : s.Within P) (ht : t'.Within P) :
    t.Within P := by
  obtain ⟨more, hadds, hadds'⟩ := h
  intro ty hty
  rcases (hadds ty).mp hty with hold | hnew
  · exact hs ty hold
  · exact ht ty ((hadds' ty).mpr (.inr hnew))

theorem level_of_scope (hs : Faithful b s) (ht : Faithful b t) (hscope : s.scope = [])
    (hscope' : t.scope = []) : Level b s t where
  left := hs
  right := ht
  scope := hscope.trans hscope'.symm
  covers := by
    rw [hscope]
    exact fun f hf => absurd hf List.not_mem_nil

theorem Expands.unique (hi : telling.CoversIndex b.index) (ht : telling.Covers ty)
    (h : Expands b P ty x) (h' : Expands b Q ty y) : x = y := by
  obtain ⟨s, i, hs, hscope, hframed, rfl, hc, -, rfl⟩ := h
  obtain ⟨s', i', hs', hscope', hframed', htype, hc', -, rfl⟩ := h'
  have hlevel := level_of_scope hs hs' hscope hscope'
  exact (alike_expand hi hlevel hframed hframed' htype.symm ht hc hc').1

/-- Expanding a definition stays among types among which it has been expanded. -/
theorem Expands.within (hi : telling.CoversIndex b.index) (ht : telling.Covers i.type)
    (h : Expands b P i.type x) (hs : Faithful b s) (hscope : s.scope = []) (hframed : i.Framed b)
    (hc : (s.expand b i).2.diagnostics.Clean) (hP : s.Within P) :
    (s.expand b i).2.Within P := by
  obtain ⟨s', i', hs', hscope', hframed', htype, hc', hP', -⟩ := h
  have hlevel := level_of_scope hs hs' hscope hscope'
  exact (alike_expand hi hlevel hframed hframed' htype.symm ht hc hc').2.within hP hP'

theorem Starts.unique (hi : telling.CoversIndex b.index) (ht : telling.Covers ty)
    (h : Starts b P ty x) (h' : Starts b Q ty y) : x = y := by
  obtain ⟨s, hs, hscope, hc, -, rfl⟩ := h
  obtain ⟨s', hs', hscope', hc', -, rfl⟩ := h'
  exact (alike_walk hi (level_of_scope hs hs' hscope hscope') ht .empty hc hc').1

theorem Starts.within (hi : telling.CoversIndex b.index) (ht : telling.Covers ty)
    (h : Starts b P ty x) (hs : Faithful b s) (hscope : s.scope = [])
    (hc : (s.walk b ty .empty).state.diagnostics.Clean) (hP : s.Within P) :
    (s.walk b ty .empty).state.Within P := by
  obtain ⟨s', hs', hscope', hc', hP', -⟩ := h
  exact (alike_walk hi (level_of_scope hs hs' hscope hscope') ht .empty hc hc').2.within hP hP'

/-- Where a build stands between two steps of a drain: what is expanded has been expanded by what is in
the registry. -/
structure Settled (b : Builder) (s : BuildState) : Prop extends Charted b telling s where
  faithful : Faithful b s
  expanded : ∀ e ∈ s.registry.entries, e.completed = true →
    Expands b (· ∈ s.registry.types) e.type e.body

theorem settled_init (b : Builder) : Settled b (init b) where
  toCharted := charted_init b telling
  faithful := faithful_init b
  expanded := by simp [init]

/-- A step of a drain from a settled state walks the body of a definition with the frame of its type. -/
theorem Settled.walked (hi : telling.CoversIndex b.index) (h : Settled b s) {rest : List WorkItem}
    (hq : s.worklist.queue = i :: rest) :
    telling.Covers i.type ∧ i.Framed b ∧ Faithful b (s.opened i rest) ∧
      Grows b telling (s.opened i rest) ((s.opened i rest).expand b i).2 := by
  obtain ⟨-, ht, hframed, -⟩ := h.next hq
  exact ⟨ht, hframed, ⟨h.faithful.place, h.faithful.entries⟩, grows_expand hi (hframed.covers hi ht)⟩

theorem Faithful.closed {r : Schema × BuildState} (h : Faithful b r.2) :
    Faithful b (s.closed i r) where
  place := h.place
  entries e he := by
    rcases Registry.mem_complete he with he | ⟨e', he', rfl⟩
    · exact h.entries e he
    · have hf := h.entries e' he'
      exact ⟨hf.signature, hf.name, hf.plain, hf.telling⟩

theorem Settled.step (hi : telling.CoversIndex b.index) (h : Settled b s) (hd : s.isDone = false)
    (hc : (s.step b).diagnostics.Clean) : Settled b (s.step b) := by
  have hcharted := h.toCharted.step hi hd
  obtain ⟨i, rest, hq⟩ := exists_queue hd
  rw [step_of_cons hq] at hc hcharted ⊢
  obtain ⟨ht, hframed, hopened, hg⟩ := h.walked hi hq
  have hfaithful : Faithful b ((s.opened i rest).expand b i).2 := hopened.grows hg hc
  refine ⟨hcharted, hfaithful.closed, fun e he hdone => ?_⟩
  have htypes : (s.closed i ((s.opened i rest).expand b i)).registry.types =
      ((s.opened i rest).expand b i).2.registry.types := by
    simp [closed]
  rw [htypes]
  obtain ⟨e₀, he₀, htype⟩ := h.target hq
  rcases hg.completed_closed he₀ he hdone with rfl | hold
  · -- The definition that was taken: its body has just been walked.
    exact ⟨_, i, hopened, h.scope, hframed, htype.symm, hc, fun _ h => h, rfl⟩
  · -- Another definition has the body that it had, among more types.
    exact (h.expanded e hold hdone).mono (fun _ hty => hg.types hty)

theorem Settled.drain (hi : telling.CoversIndex b.index) (h : Settled b s)
    (hc : (s.drain b).diagnostics.Clean) : Settled b (s.drain b) := by
  have hkeeps : (s.drain b).diagnostics.Clean → Settled b (s.drain b) :=
    drain_keeps (P := fun t => t.diagnostics.Clean → Settled b t)
      (fun t hd h hc => (h (hc.mono (course_step b t).diagnostics)).step hi hd hc) (fun _ => h)
  exact hkeeps hc

theorem Settled.walk (hi : telling.CoversIndex b.index) (h : Settled b s) (ht : telling.Covers ty)
    (hc : (s.walk b ty .empty).state.diagnostics.Clean) :
    Settled b (s.walk b ty .empty).state := by
  have hscope : telling.CoversScope s.scope := by
    rw [h.scope]
    exact fun f hf => absurd hf List.not_mem_nil
  have hg := grows_walk (b := b) hi hscope ht .empty
  refine ⟨h.toCharted.walk hi ht, h.faithful.grows hg hc, fun e he hdone => ?_⟩
  have hold := hg.mem_of_completed he hdone
  exact (h.expanded e hold hdone).mono (fun _ hty => hg.types hty)

/-- Among closed types, that is types with all that their bodies need, a step stays. -/
theorem Settled.within_step (hi : telling.CoversIndex b.index) (h : Settled b s)
    (hP : ∀ ty, P ty → ∃ body, Expands b P ty body) (hd : s.isDone = false) (hs : s.Within P)
    (hc : (s.step b).diagnostics.Clean) : (s.step b).Within P := by
  obtain ⟨i, rest, hq⟩ := exists_queue hd
  rw [step_of_cons hq] at hc ⊢
  obtain ⟨ht, hframed, hopened, -⟩ := h.walked hi hq
  obtain ⟨e, he, htype⟩ := h.target hq
  have hmem : i.type ∈ s.registry.types := htype ▸ List.mem_map_of_mem (Registry.mem_of_get? he)
  obtain ⟨body, hbody⟩ := hP i.type (hs _ hmem)
  have hwithin := hbody.within hi ht hopened h.scope hframed hc hs
  simpa [Within, closed] using hwithin

theorem Settled.within_drain (hi : telling.CoversIndex b.index) (h : Settled b s)
    (hP : ∀ ty, P ty → ∃ body, Expands b P ty body) (hs : s.Within P)
    (hc : (s.drain b).diagnostics.Clean) : (s.drain b).Within P := by
  have hkeeps : (s.drain b).diagnostics.Clean → Settled b (s.drain b) ∧ (s.drain b).Within P :=
    drain_keeps (P := fun t => t.diagnostics.Clean → Settled b t ∧ t.Within P)
      (fun t hd h hc => by
        obtain ⟨hsettled, hwithin⟩ := h (hc.mono (course_step b t).diagnostics)
        exact ⟨hsettled.step hi hd hc, hsettled.within_step hi hP hd hwithin hc⟩)
      (fun _ => ⟨h, hs⟩)
  exact (hkeeps hc).2

/-- When nothing waits, every definition has been expanded among the definitions there are. -/
theorem Settled.closed (h : Settled b s) (hd : s.isDone = true) :
    ∀ ty ∈ s.registry.types, ∃ body, Expands b (· ∈ s.registry.types) ty body := by
  intro ty hty
  obtain ⟨e, he, rfl⟩ := List.mem_map.mp hty
  obtain ⟨items, ho⟩ := h.order
  have hdone := ho.all_completed (queue_eq_nil_of_isDone hd) e he
  exact ⟨e.body, h.expanded e he hdone⟩

/-! Roots, one after the other. -/

theorem Settled.addRoots (hi : telling.CoversIndex b.index) {roots : List TypeExpr}
    (h : Settled b s) (hr : ∀ root ∈ roots, telling.Covers root)
    (hc : (s.addRoots b roots).2.diagnostics.Clean) :
    Settled b (s.addRoots b roots).2 ∧
      List.Forall₂ (Starts b (· ∈ (s.addRoots b roots).2.registry.types)) roots
        (s.addRoots b roots).1 := by
  induction roots generalizing s with
  | nil => exact ⟨h, .nil⟩
  | cons root roots ih =>
    rw [List.forall_mem_cons] at hr
    have hrest := course_addRoots b roots (s.addRoot b root).2
    have hdrain := course_drain b (s.walk b root .empty).state
    have hcdrain := hc.mono hrest.diagnostics
    have hcwalk := hcdrain.mono hdrain.diagnostics
    have hwalked := h.walk hi hr.1 hcwalk
    obtain ⟨hsettled, hstarts⟩ := ih (hwalked.drain hi hcdrain) hr.2 hc
    refine ⟨hsettled, .cons ?_ hstarts⟩
    exact ⟨s, h.faithful, h.scope, hcwalk, (hdrain.trans hrest).types, rfl⟩

theorem Settled.within_addRoots (hi : telling.CoversIndex b.index) {roots : List TypeExpr}
    (h : Settled b s) (hr : ∀ root ∈ roots, telling.Covers root)
    (hP : ∀ ty, P ty → ∃ body, Expands b P ty body)
    (hstarts : ∀ root ∈ roots, ∃ schema, Starts b P root schema) (hs : s.Within P)
    (hc : (s.addRoots b roots).2.diagnostics.Clean) : (s.addRoots b roots).2.Within P := by
  induction roots generalizing s with
  | nil => exact hs
  | cons root roots ih =>
    rw [List.forall_mem_cons] at hr hstarts
    have hcdrain := hc.mono (course_addRoots b roots (s.addRoot b root).2).diagnostics
    have hcwalk := hcdrain.mono (course_drain b (s.walk b root .empty).state).diagnostics
    have hwalked := h.walk hi hr.1 hcwalk
    obtain ⟨schema, hstart⟩ := hstarts.1
    have hwithin := hstart.within hi hr.1 h.faithful h.scope hcwalk hs
    exact ih (hwalked.drain hi hcdrain) hr.2 hstarts.2 (hwalked.within_drain hi hP hwithin hcdrain) hc

end BuildState
end SchemaGraph
