import SchemaGraph.Proofs.WellFormed

/-! The course of a build: from any of its states to any later one, in the middle of a body too. Later
states have the definitions and diagnostics of earlier ones, in their order, and more. -/
namespace SchemaGraph

theorem Diagnostics.keeps_record (ds : Diagnostics) (code : DiagnosticCode) (n m : String) :
    ds <+: ds.record code n m := by
  unfold record
  split
  · exact List.prefix_rfl
  · exact List.prefix_append ..

theorem Diagnostics.record_of_mem {ds : Diagnostics} {d : Diagnostic} (h : d ∈ ds) (message : String) :
    ds.record d.code d.typeName message = ds := by
  unfold record
  rw [if_pos]
  apply List.any_eq_true.mpr
  exact ⟨d, h, by simp⟩

/-- What is recorded is there afterwards, under an older message when it was there before. -/
theorem Diagnostics.mem_record (ds : Diagnostics) (code : DiagnosticCode) (name message : String) :
    ∃ d ∈ ds.record code name message, d.code = code ∧ d.typeName = name ∧
      (d ∈ ds ∨ d.message = message) := by
  unfold record
  split
  · rename_i h
    obtain ⟨d, hd, hsame⟩ := List.any_eq_true.mp h
    obtain ⟨hcode, hname⟩ := of_decide_eq_true hsame
    exact ⟨d, hd, hcode, hname, .inl hd⟩
  · exact ⟨⟨code, name, message⟩, by simp, rfl, rfl, .inr rfl⟩

theorem Diagnostics.mem_of_mem_record {ds : Diagnostics} {d : Diagnostic} {code : DiagnosticCode}
    {name message : String} (h : d ∈ ds.record code name message) :
    d ∈ ds ∨ d = ⟨code, name, message⟩ := by
  unfold record at h
  split at h
  · exact .inl h
  · rcases List.mem_append.mp h with h | h
    · exact .inl h
    · exact .inr (List.mem_singleton.mp h)

/-- The types that have definitions. -/
def Registry.types (r : Registry) : List TypeExpr := r.entries.map Entry.type

@[simp] theorem Registry.types_complete (r : Registry) (id : Nat) (body : Schema) :
    (r.complete id body).types = r.types :=
  map_complete (f := Entry.type) (fun _ _ => rfl) id body

theorem Registry.types_eq_map_outline (r : Registry) : r.types = r.outline.map Entry.type := by
  simp [types, outline, Entry.outline]

theorem Registry.size_le_of_prefix {r r' : Registry} (h : r.outline <+: r'.outline) :
    r.size ≤ r'.size := by
  rw [← Registry.length_outline, ← Registry.length_outline]
  exact h.length_le

/-- A definition stays in its place, apart from its body. -/
theorem Registry.get?_of_prefix {r r' : Registry} (h : r.outline <+: r'.outline) {id : Nat}
    {e : Entry} (he : r.get? id = some e) : ∃ e', r'.get? id = some e' ∧ e'.outline = e.outline := by
  obtain ⟨more, hmore⟩ := h
  have hlt : id < r.outline.length := by
    rw [length_outline]
    exact lt_size_of_get? he
  have hget : r'.outline[id]? = some e.outline := by
    rw [← hmore, List.getElem?_append_left hlt, outline_getElem?, he]
    rfl
  rw [outline_getElem?] at hget
  exact Option.map_eq_some_iff.mp hget

/-- The type and the parent of a definition belong to its outline. -/
theorem Entry.eq_of_outline_eq {e e' : Entry} (h : e.outline = e'.outline) :
    e.type = e'.type ∧ e.parent = e'.parent := by
  have htype := congrArg Entry.type h
  have hparent := congrArg Entry.parent h
  exact ⟨htype, hparent⟩

namespace BuildState

variable {b : Builder} {v : Vocabulary} {s t u : BuildState} {r : TypeExpr} {d : Declaration}

/-- A definition that gets another name than it asks for is reported. -/
theorem define_diagnostics (h : s.registry.lookup r.signature = none) :
    ∃ m, (s.define r d).2.diagnostics =
      if s.registry.freeName r.referenceName = r.referenceName then s.diagnostics
      else s.diagnostics.record .referenceNameCollision r.signature m := by
  have hget : ∀ e : Entry, (s.registry.entries ++ [e])[s.registry.size]? = some e := by
    simp [Registry.size]
  simp only [define, Registry.insert_of_fresh h, noteCollision, Registry.get?, hget]
  split
  · exact ⟨"", rfl⟩
  · exact ⟨_, rfl⟩

/-- Diagnostics are only added. -/
theorem Grows.diagnostics (h : Grows b v s t) : s.diagnostics <+: t.diagnostics := by
  induction h with
  | refl => exact List.prefix_rfl
  | note _ code n m ih => exact ih.trans (Diagnostics.keeps_record ..)
  | enter _ _ ih => exact ih
  | @define t ty d _ _ hd ih =>
    obtain ⟨m, hm⟩ := define_diagnostics (d := d) hd.fresh
    rw [hm]
    split
    · exact ih
    · exact ih.trans (Diagnostics.keeps_record ..)

theorem Grows.outline (h : Grows b v s t) : s.registry.outline <+: t.registry.outline := by
  obtain ⟨more, hm, -⟩ := h.extends
  exact ⟨more, hm.symm⟩

/-- What is new has no body yet. -/
theorem Grows.mem_of_completed {v : Vocabulary} (h : Grows b v s t) {e : Entry}
    (he : e ∈ t.registry.entries) (hc : e.completed = true) : e ∈ s.registry.entries := by
  induction h with
  | refl => exact he
  | note _ _ _ _ ih => exact ih he
  | enter _ _ ih => exact ih he
  | @define t ty d _ _ hd ih =>
    rw [define_registry hd.fresh, List.mem_append, List.mem_singleton] at he
    rcases he with he | rfl
    · exact ih he
    · cases hc

theorem Grows.get? {v : Vocabulary} (h : Grows b v s t) {id : Nat} {e : Entry}
    (he : s.registry.get? id = some e) : t.registry.get? id = some e := by
  obtain ⟨more, hm⟩ := h.entries
  rw [Registry.get?, hm]
  exact List.getElem?_append_left (Registry.lt_size_of_get? he) ▸ he

/-- What has a body after a step is the definition that was taken, or had its body before. -/
theorem Grows.completed_closed {item : WorkItem} {rest : List WorkItem} {out : Schema × BuildState}
    {e e' : Entry} (hg : Grows b v (s.opened item rest) out.2)
    (he : s.registry.get? item.target = some e)
    (he' : e' ∈ (s.closed item out).registry.entries) (hdone : e'.completed = true) :
    e' = { e with body := out.1, completed := true } ∨ e' ∈ s.registry.entries := by
  obtain ⟨id, hid⟩ := List.getElem?_of_mem he'
  have hget : (s.closed item out).registry.get? id = some e' := hid
  rw [BuildState.closed, Registry.get?_complete, Option.map_eq_some_iff] at hget
  obtain ⟨e'', he'', heq⟩ := hget
  split at heq
  · rename_i htarget
    have htaken : out.2.registry.get? item.target = some e := hg.get? he
    rw [htarget, he''] at htaken
    obtain rfl := Option.some.inj htaken
    exact .inl heq.symm
  · subst heq
    exact .inr (hg.mem_of_completed (Registry.mem_of_get? he'') hdone)

theorem outline_define (hl : s.registry.lookup r.signature = none) :
    (s.define r d).2.registry.outline = s.registry.outline ++ [s.newEntry r] := by
  rw [define_registry hl]
  simp [Registry.outline, newEntry, Entry.outline]

theorem prefix_define (hl : s.registry.lookup r.signature = none) :
    s.registry.outline <+: (s.define r d).2.registry.outline := ⟨_, (outline_define hl).symm⟩

theorem types_define (hl : s.registry.lookup r.signature = none) :
    (s.define r d).2.registry.types = s.registry.types ++ [r] := by
  rw [Registry.types_eq_map_outline, outline_define hl, List.map_append,
    ← Registry.types_eq_map_outline]
  rfl

theorem queue_define (hl : s.registry.lookup r.signature = none) :
    (s.define r d).2.worklist.queue.map WorkItem.type =
      s.worklist.queue.map WorkItem.type ++ [r] := by
  rw [define_worklist hl]
  simp [Worklist.push, newItem]

theorem nodup_types (h : Sound b s) : s.registry.types.Nodup := by
  have hsig : s.registry.entries.map Entry.signature =
      s.registry.types.map TypeExpr.signature := by
    rw [Registry.types, List.map_map]
    exact List.map_congr_left (fun e he => (h.entries e he).signature)
  have hnodup := hsig ▸ h.signatures
  exact List.Pairwise.of_map _ (fun a b hab heq => hab (congrArg _ heq)) hnodup

theorem Grows.types {v : Vocabulary} (h : Grows b v s t) :
    s.registry.types ⊆ t.registry.types := by
  obtain ⟨more, hm⟩ := h.entries
  rw [Registry.types, Registry.types, hm, List.map_append]
  exact List.subset_append_left ..

/-- Whether a build can come from one state to another: it walks, takes a definition from the queue, or
stores a body. -/
inductive Course (b : Builder) (s : BuildState) : BuildState → Prop
  | refl : Course b s s
  | grows {t u : BuildState} (h : Course b s t) (hg : Grows b .full t u) : Course b s u
  | opened {t : BuildState} (h : Course b s t) (item : WorkItem) (rest : List WorkItem) :
    Course b s (t.opened item rest)
  | closed {t : BuildState} (h : Course b s t) (u : BuildState) (item : WorkItem) (body : Schema) :
    Course b s (u.closed item (body, t))

namespace Course

theorem trans (hst : Course b s t) (htu : Course b t u) : Course b s u := by
  induction htu with
  | refl => exact hst
  | grows _ hg ih => exact ih.grows hg
  | opened _ item rest ih => exact ih.opened item rest
  | closed _ u item body ih => exact ih.closed u item body

theorem outline (h : Course b s t) : s.registry.outline <+: t.registry.outline := by
  induction h with
  | refl => exact List.prefix_rfl
  | grows _ hg ih => exact ih.trans hg.outline
  | opened _ _ _ ih => exact ih
  | closed _ _ _ _ ih => simpa [BuildState.closed] using ih

theorem diagnostics (h : Course b s t) : s.diagnostics <+: t.diagnostics := by
  induction h with
  | refl => exact List.prefix_rfl
  | grows _ hg ih => exact ih.trans hg.diagnostics
  | opened _ _ _ ih => exact ih
  | closed _ _ _ _ ih => exact ih

theorem types (h : Course b s t) : s.registry.types ⊆ t.registry.types := by
  rw [Registry.types_eq_map_outline, Registry.types_eq_map_outline]
  exact (h.outline.map Entry.type).subset

end Course

/-! Whatever a build does is such a course. -/

theorem course_walk (b : Builder) (ty : TypeExpr) (node : Schema) (s : BuildState) :
    Course b s (s.walk b ty node).state := Course.refl.grows (grows_process b ty node s)

theorem course_step (b : Builder) (s : BuildState) : Course b s (s.step b) := by
  cases hq : s.worklist.queue with
  | nil =>
    have hsame : s.step b = s := by simp [step, Worklist.pop?, hq]
    rw [hsame]
    exact .refl
  | cons item rest =>
    rw [step_of_cons hq]
    exact ((Course.refl.opened item rest).grows (grows_step_body b s item rest)).closed s item _

theorem course_drain (b : Builder) (s : BuildState) : Course b s (s.drain b) :=
  drain_keeps (P := Course b s) (fun t _ h => h.trans (course_step b t)) .refl

theorem course_addRoots (b : Builder) (roots : List TypeExpr) (s : BuildState) :
    Course b s (s.addRoots b roots).2 := by
  induction roots generalizing s with
  | nil => exact .refl
  | cons root roots ih =>
    exact ((course_walk b root .empty s).trans (course_drain b _)).trans (ih _)

end BuildState
end SchemaGraph
