import SchemaGraph.Proofs.Lineage
import SchemaGraph.Proofs.SingleFlight

/-! Where a build of roots stands between two steps: what is queued has the frame of its type, and what is
expanded next the lineage of its definition. -/
namespace SchemaGraph

/-- Whether a queued definition has the frame of its type. -/
def WorkItem.Framed (b : Builder) (i : WorkItem) : Prop :=
  ∃ d, i.type.baseName?.bind b.index.lookup = some d ∧ i.frame = .ofType i.type d

theorem WorkItem.Framed.frame_eq {b : Builder} {i i' : WorkItem} (h : i.Framed b)
    (h' : i'.Framed b) (htype : i.type = i'.type) : i.frame = i'.frame := by
  obtain ⟨d, hd, hframe⟩ := h
  obtain ⟨d', hd', hframe'⟩ := h'
  rw [← htype, hd] at hd'
  cases hd'
  rw [hframe, hframe', htype]

theorem WorkItem.Framed.covers {b : Builder} {v : Vocabulary} {i : WorkItem} (h : i.Framed b)
    (hi : v.CoversIndex b.index) (ht : v.Covers i.type) : v.CoversFrame i.frame := by
  obtain ⟨d, hd, hframe⟩ := h
  obtain ⟨n, -, hn⟩ := Option.bind_eq_some_iff.mp hd
  exact hframe ▸ Vocabulary.coversFrame_ofType ht (hi.declaration n d hn)

namespace BuildState

variable {b : Builder} {v : Vocabulary} {s t : BuildState}

theorem Grows.framed {v : Vocabulary} (h : Grows b v s t)
    (hs : ∀ i ∈ s.worklist.queue, i.Framed b) : ∀ i ∈ t.worklist.queue, i.Framed b := by
  induction h with
  | refl => exact hs
  | note _ _ _ _ ih => exact ih
  | enter _ _ ih => exact ih
  | @define t ty d _ _ hd ih =>
    rw [define_worklist hd.fresh]
    simp only [Worklist.push, List.mem_append, List.mem_singleton, or_imp, forall_and, forall_eq]
    exact ⟨ih, d, hd.declared, rfl⟩

theorem Grows.covers_types {v : Vocabulary} (hg : Grows b v s t)
    (h : ∀ ty ∈ s.registry.types, v.Covers ty) : ∀ ty ∈ t.registry.types, v.Covers ty := by
  induction hg with
  | refl => exact h
  | note _ _ _ _ ih => exact ih
  | enter _ _ ih => exact ih
  | define _ hv hd ih =>
    rw [types_define hd.fresh, List.forall_mem_append, List.forall_mem_singleton]
    exact ⟨ih, hv⟩

/-- Where a build of roots stands between two steps, over a vocabulary. -/
structure Charted (b : Builder) (v : Vocabulary) (s : BuildState) : Prop where
  sound : Sound b s
  order : ∃ items, InOrder items.length items s
  framed : ∀ i ∈ s.worklist.queue, i.Framed b
  covers : ∀ ty ∈ s.registry.types, v.Covers ty
  scope : s.scope = []
  expanding : s.expanding = none

variable {item : WorkItem} {rest : List WorkItem}

theorem charted_init (b : Builder) (v : Vocabulary) : Charted b v (init b) where
  sound := sound_init b
  order := ⟨[], inOrder_init b⟩
  framed := by simp [init]
  covers := by simp [init, Registry.types]
  scope := rfl
  expanding := rfl

theorem Charted.walk (hs : Charted b v s) (hi : v.CoversIndex b.index) {root : TypeExpr}
    (hv : v.Covers root) : Charted b v (s.walk b root .empty).state := by
  have hcovers : v.CoversScope s.scope := by
    rw [hs.scope]
    exact fun f hf => absurd hf List.not_mem_nil
  have hg := grows_walk (b := b) hi hcovers hv .empty
  obtain ⟨items, ho⟩ := hs.order
  constructor
  · exact hs.sound.grows hg
  · exact ⟨items, ho.grows hg⟩
  · exact hg.framed hs.framed
  · exact hg.covers_types hs.covers
  · exact (walk_scope ..).trans hs.scope
  · exact hg.expanding.trans hs.expanding

/-- What is expanded next has a definition. -/
theorem Charted.target (hs : Charted b v s) (hq : s.worklist.queue = item :: rest) :
    ∃ e, s.registry.get? item.target = some e ∧ e.type = item.type := by
  obtain ⟨items, ho⟩ := hs.order
  exact ho.carried (List.mem_append_right items (by simp [hq]))

/-- What is expanded next has a lineage that starts with its own type. -/
theorem Charted.next (hs : Charted b v s) (hq : s.worklist.queue = item :: rest) :
    item.type.Plain ∧ v.Covers item.type ∧ item.Framed b ∧
      ∃ l, s.registry.Lineage (some item.target) (item.type :: l) := by
  have hmem : item ∈ s.worklist.queue := by simp [hq]
  obtain ⟨e, he, htype⟩ := hs.target hq
  have hentry := Registry.mem_of_get? he
  obtain ⟨l, hl⟩ := Registry.exists_lineage hs.sound.parents he
  refine ⟨?_, ?_, hs.framed item hmem, l, htype ▸ .entry he hl⟩
  · exact htype ▸ (hs.sound.entries e hentry).plain
  · exact htype ▸ hs.covers _ (List.mem_map_of_mem hentry)

theorem Charted.step (hs : Charted b v s) (hi : v.CoversIndex b.index) (hd : s.isDone = false) :
    Charted b v (s.step b) := by
  obtain ⟨item, rest, hq⟩ := exists_queue hd
  obtain ⟨-, hcovers, hframed, -⟩ := hs.next hq
  have hg : Grows b v (s.opened item rest) ((s.opened item rest).expand b item).2 :=
    grows_expand hi (hframed.covers hi hcovers)
  obtain ⟨items, ho⟩ := hs.order
  have hsound := hs.sound.step hd
  have horder := ho.step (b := b) hq
  rw [step_of_cons hq] at hsound horder ⊢
  constructor
  · exact hsound
  · exact ⟨items ++ [item], horder⟩
  · exact hg.framed (fun i hi => hs.framed i (hq ▸ List.mem_cons_of_mem item hi))
  · simpa [closed] using hg.covers_types hs.covers
  · exact (expand_scope ..).trans hs.scope
  · exact hs.expanding

end BuildState
end SchemaGraph
